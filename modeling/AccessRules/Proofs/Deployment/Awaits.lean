import AccessRules.Proofs.Deployment.Lifetime
import AccessRules.Proofs.Engine.Loads

/-!
# Loads and what they wait for

A call that loads rules waits for a loader or for a fetch. What it comes to depends on what was
delivered (`LoadCall.await`), and on nothing else that was waited for: the source raised, or some
entry is no rule, or every entry describes a rule.

* `createFromFetcher_eq`, `initializeFrom_of_fresh`: waiting for a fetch and taking its payload
  apart comes to the load of the payload, although the rules are read twice on that way;
* `load_comes`: the step, one lemma for the three kinds of calls;
* **`awaits_accounted`**: every call waits once and is counted once, by what it came to, so over any
  run of calls the counted loads are as many as the waits.
-/

namespace AccessRules

variable {σ : Type}

/-- The entries in a payload. -/
def Payload.entries : Payload → Except Failure (List RuleInput)
  | .checked made => .ok (made.map .rule)
  | .inputs given => .ok given
  | .document (.array items) => .ok (items.map .document)
  | .document (.object members) => match Members.get? members "data" with
    | some (.array items) => .ok (items.map .document)
    | some data => .error (refused "Rule payload 'data' must be a list" data)
    | none => .error (refused "Rule payload must contain a 'data' list" (.object members))
  | .document other => .error (refused "Rule payload must contain a 'data' list" other)

/-- The rules of a payload are read from its entries. -/
theorem Payload.rules_eq (payload : Payload) : payload.rules = payload.entries.bind parseRules := by
  cases payload with
  | checked made => exact (parseRules_map_rule made).symm
  | inputs given => rfl
  | document document =>
      cases document with
      | object members =>
          rw [rules, entries]
          cases Members.get? members "data" with
          | none => rfl
          | some data => cases data <;> rfl
      | _ => rfl

theorem Fetched.rules_eq (fetched : Fetched) :
    fetched.rules = (fetched.bind Payload.entries).bind parseRules := by
  cases fetched with
  | error failure => rfl
  | ok payload => exact payload.rules_eq

/-! ### Waiting for a loader or a fetch -/

/-- What is waited for as before, with a count of how often that was. -/
def Awaitable.counted {α : Type} (source : Awaitable σ α) : Awaitable (σ × Nat) α :=
  fun (drawn, waits) => ((source drawn).1, (source drawn).2, waits + 1)

namespace Engine

theorem createFromSource_eq (engine : Engine) (evaluator : Evaluator) (collector : Option String)
    (loader : Awaitable σ (List RuleInput)) (drawn : σ) :
    engine.createFromSource evaluator collector loader drawn =
      ((engine.loadFromSource evaluator collector (loader drawn).1).1,
        (engine.loadFromSource evaluator collector (loader drawn).1).2, (loader drawn).2) := rfl

/-- Rules that were taken out of a payload are read once more, and loaded as the payload is. -/
theorem createFromFetcher_eq (engine : Engine) (evaluator : Evaluator) (collector : Option String)
    (fetch : Awaitable σ Payload) (drawn : σ) :
    engine.createFromFetcher evaluator collector fetch drawn =
      ((engine.loadFromFetch evaluator collector (fetch drawn).1).1,
        (engine.loadFromFetch evaluator collector (fetch drawn).1).2, (fetch drawn).2) := by
  have again (loaded : Except Failure (List Rule)) :
      (loaded.map fun rules => rules.map RuleInput.rule).bind parseRules = loaded := by
    cases loaded with
    | error failure => rfl
    | ok rules => exact parseRules_map_rule rules
  have taken : engine.loadFromSource evaluator collector (fetch.unwrapping drawn).1 =
      engine.loadFromFetch evaluator collector (fetch drawn).1 :=
    congrArg (engine.finishLoad evaluator collector) (again (Fetched.rules (fetch drawn).1))
  rw [createFromFetcher, createFromSource_eq, taken]
  rfl

end Engine

namespace Client

/-- A client that nobody is initializing. -/
structure Rests (client : Client) : Prop where
  turn : client.turn = none
  line : client.line = []

/-- A client without a resolver waits for the fetch, and loads what it brings. -/
theorem initializeFrom_of_fresh {client : Client} (rests : client.Rests)
    (fresh : client.resolver = none) (engine : Engine) (fetch : Awaitable σ Payload) (drawn : σ) :
    client.initializeFrom engine fetch drawn =
      ((client.finish engine (fetch drawn).1).1, (client.finish engine (fetch drawn).1).2.1,
        (client.finish engine (fetch drawn).1).2.2, (fetch drawn).2) := by
  have began : client.start 0 = (.fetches 0, { client with turn := some 0 }) := by
    simp [start, giveTurn, isInitialized, rests.turn, rests.line, fresh]
  rw [initializeFrom, began]
  simp only [Engine.createFromFetcher_eq, finish]
  cases (engine.loadFromFetch client.evaluator client.collector (fetch drawn).1).1 <;> rfl

/-- A client with a resolver waits for nothing. -/
theorem initializeFrom_of_held {client : Client} (rests : client.Rests) {resolver : Nat}
    (held : client.resolver = some resolver) (engine : Engine) (fetch : Awaitable σ Payload)
    (drawn : σ) :
    client.initializeFrom engine fetch drawn =
      (.error (.report .alreadyInitialized), client, engine, drawn) := by
  have ended : client.start 0 = (.ended 0 (.error (.report .alreadyInitialized)), client) := by
    simp [start, giveTurn, isInitialized, rests.turn, rests.line, held]
  rw [initializeFrom, ended]

variable {engine : Engine} {fetched : Fetched} {rules : List Rule} {failure : Failure}

theorem finish_fst (client : Client) (engine : Engine) (fetched : Fetched) :
    (client.finish engine fetched).1 = fetched.rules.map fun _ => engine.services.length := by
  cases brought : fetched.rules with
  | error failure =>
      rw [finish_of_error brought]
      rfl
  | ok rules =>
      obtain ⟨next, service, finished, -⟩ := finish_of_ok brought client engine
      rw [finished]
      rfl

/-- A client that is let down is left as it was. -/
theorem Rests.finish_of_error {client : Client} (rests : client.Rests)
    (brought : fetched.rules = .error failure) : (client.finish engine fetched).2.1 = client := by
  rw [Client.finish_of_error brought, ← rests.turn]

theorem Rests.finish_of_ok {client : Client} (rests : client.Rests)
    (brought : fetched.rules = .ok rules) :
    (client.finish engine fetched).2.1 =
      { client with resolver := some engine.services.length } := by
  obtain ⟨next, service, finished, -⟩ := Client.finish_of_ok brought client engine
  rw [finished, ← rests.turn]

end Client

/-! ### One call -/

namespace Deployment

/-- What a call waits for: the entries that are delivered, or the failure that is raised, and the
state that what it draws on is left in. -/
def LoadCall.await (drawn : σ) : LoadCall σ → Except Failure (List RuleInput) × σ
  | .source _ _ loader => loader drawn
  | .fetcher _ _ fetch | .client _ fetch =>
      ((fetch drawn).1.bind Payload.entries, (fetch drawn).2)

/-- What a call builds its resolver with: an evaluator, and the registry that the load is counted
in, if any. A client that has a resolver, or that is not there, gets to load nothing. -/
def terms? (deployment : Deployment) : LoadCall σ → Option (Evaluator × Option String)
  | .source evaluator collector _ | .fetcher evaluator collector _ => some (evaluator, collector)
  | .client number _ => (deployment.clients[number]?.filter fun client =>
      !client.isInitialized).map fun client => (client.evaluator, client.collector)

/-- Nobody is initializing a client of the deployment, and all of them count in the registry. -/
structure Shares (deployment : Deployment) (registry : String) : Prop where
  rests : ∀ client ∈ deployment.clients, client.Rests
  collector : ∀ client ∈ deployment.clients, client.collector = some registry

/-- A call that brings its own collector brings that of the registry. -/
def LoadCall.CountsIn (registry : String) : LoadCall σ → Prop
  | .source _ collector _ | .fetcher _ collector _ => collector = some registry
  | .client .. => True

/-- The clients when a call has a resolver: it stays with the client that called for it. -/
def holding (deployment : Deployment) (resolver : Nat) : LoadCall σ → List Client
  | .client number _ => deployment.clients.modify number fun client =>
      { client with resolver := some resolver }
  | _ => deployment.clients

/-- What a call with the terms given comes to, by the rules or the failure that it loads. -/
structure Comes (deployment : Deployment) (drawn : σ) (call : LoadCall σ) (evaluator : Evaluator)
    (collector : Option String) (loaded : Except Failure (List Rule)) : Prop where
  answer : (deployment.load drawn call).1 =
    .ofBuilt (loaded.map fun _ => deployment.engine.services.length)
  awaited : (deployment.load drawn call).2.2 = (call.await drawn).2
  advances : deployment.engine.Advances (deployment.load drawn call).2.1.engine
    [.of collector loaded] (deployment.engine.builtBy evaluator collector loaded)
  letDown : ∀ failure, loaded = .error failure →
    (deployment.load drawn call).2.1.clients = deployment.clients
  held : ∀ rules, loaded = .ok rules → (deployment.load drawn call).2.1.clients =
    deployment.holding deployment.engine.services.length call

variable {deployment : Deployment} {registry : String} {evaluator : Evaluator}
  {collector : Option String}

/-- The client that gets to load has no resolver, and the terms are its own. -/
theorem client_of_terms? {number : Nat} {fetch : Awaitable σ Payload}
    (terms : deployment.terms? (.client number fetch) = some (evaluator, collector)) :
    ∃ client, deployment.clients[number]? = some client ∧ client.resolver = none ∧
      client.evaluator = evaluator ∧ client.collector = collector := by
  simpa [terms?, Option.filter_eq_some_iff, Client.isInitialized, and_assoc] using terms

theorem load_client_comes (shares : deployment.Shares registry) {number : Nat}
    (fetch : Awaitable σ Payload) (drawn : σ)
    (terms : deployment.terms? (.client number fetch) = some (evaluator, collector)) :
    deployment.Comes drawn (.client number fetch) evaluator collector
      (Fetched.rules (fetch drawn).1) := by
  obtain ⟨client, found, fresh, rfl, rfl⟩ := client_of_terms? terms
  have rests := shares.rests client (List.mem_of_getElem? found)
  have came := client.initializeFrom_of_fresh rests fresh deployment.engine fetch drawn
  constructor
  case answer => simp only [load, found, came, Client.finish_fst]
  case awaited => simp only [load, found, came, LoadCall.await]
  case advances =>
    simp only [load, found, came]
    exact client.finish_advances deployment.engine (fetch drawn).1
  case letDown =>
    intro failure brought
    simp only [load, found, came, rests.finish_of_error brought]
    exact clients_set found
  case held =>
    intro rules brought
    simp only [load, found, came, rests.finish_of_ok brought, holding]
    rw [List.modify_eq_set_getElem?, found]
    rfl

/-- Every call that gets to load comes to what it loads, in one way. -/
theorem load_comes (shares : deployment.Shares registry) (drawn : σ) {call : LoadCall σ}
    (terms : deployment.terms? call = some (evaluator, collector)) :
    deployment.Comes drawn call evaluator collector
      ((call.await drawn).1.bind parseRules) := by
  -- A payload has been taken apart and its rules read twice by the time they are loaded; by the
  -- lemmas above this comes to one reading of its entries, as it does for a loader.
  cases call with
  | source evaluator collector loader =>
      cases terms
      exact ⟨congrArg Answer.ofBuilt (deployment.engine.finishLoad_fst ..), rfl,
        deployment.engine.finishLoad_advances .., fun _ _ => rfl, fun _ _ => rfl⟩
  | fetcher evaluator collector fetch =>
      cases terms
      have came := deployment.engine.createFromFetcher_eq evaluator collector fetch drawn
      rw [LoadCall.await, ← Fetched.rules_eq]
      constructor
      case answer =>
        simp only [load, came]
        exact congrArg Answer.ofBuilt (deployment.engine.finishLoad_fst ..)
      case awaited => simp only [load, came, LoadCall.await]
      case advances =>
        simp only [load, came]
        exact deployment.engine.finishLoad_advances ..
      case letDown => exact fun _ _ => rfl
      case held => exact fun _ _ => rfl
  | client number fetch =>
      have comes := load_client_comes shares fetch drawn terms
      rwa [Fetched.rules_eq] at comes

/-- A call that does not get to load changes nothing and waits for nothing. -/
theorem load_of_no_terms (shares : deployment.Shares registry) (drawn : σ) {call : LoadCall σ}
    (idle : deployment.terms? call = none) :
    ((deployment.load drawn call).1 = .unknown ∨
      (deployment.load drawn call).1 = .failed (.report .alreadyInitialized)) ∧
    (deployment.load drawn call).2 = (deployment, drawn) := by
  cases call with
  | source => cases idle
  | fetcher => cases idle
  | client number fetch =>
      cases found : deployment.clients[number]? with
      | none => exact ⟨Or.inl (by simp only [load, found]), by simp only [load, found]⟩
      | some client =>
          have taken : client.resolver ≠ none := by
            simpa [terms?, found, Client.isInitialized] using idle
          obtain ⟨resolver, held⟩ := Option.ne_none_iff_exists'.1 taken
          have rests := shares.rests client (List.mem_of_getElem? found)
          have refused := client.initializeFrom_of_held rests held deployment.engine fetch drawn
          have begun : (client.start 0).1.fetchCount = 0 := by
            simp [Client.start, Client.giveTurn, Client.isInitialized, rests.turn, rests.line,
              held, Client.Effect.fetchCount]
          simp only [load, found, refused, begun, clients_set found, Answer.ofBuilt]
          exact ⟨Or.inr trivial, rfl⟩

/-- The call fails for the reason given. There is no resolver, for no client either. The registry
counts one more failed load and no successful one, and its gauge stays where it was. -/
structure LoadFails (deployment : Deployment) (registry : String) (drawn : σ) (call : LoadCall σ)
    (failure : Failure) : Prop where
  answer : (deployment.load drawn call).1 = .failed failure
  services : (deployment.load drawn call).2.1.engine.services = deployment.engine.services
  clients : (deployment.load drawn call).2.1.clients = deployment.clients
  counted : ∀ metrics, deployment.engine.metrics? registry = some metrics →
    ∃ next, (deployment.load drawn call).2.1.engine.metrics? registry = some next ∧
      next.loads.count "failure" = metrics.loads.count "failure" + 1 ∧
      next.loads.count "success" = metrics.loads.count "success" ∧
      next.rulesLoaded = metrics.rulesLoaded

/-- The call gives a resolver over exactly the rules. The registry counts one more successful load
and no failed one, and its gauge shows the number of the rules. -/
structure LoadSucceeds (deployment : Deployment) (registry : String) (drawn : σ)
    (call : LoadCall σ) (evaluator : Evaluator) (rules : List Rule) : Prop where
  answer : (deployment.load drawn call).1 = .resolver deployment.engine.services.length
  serves : ∃ service, (deployment.load drawn call).2.1.engine.Serves
    deployment.engine.services.length rules evaluator service
  clients : (deployment.load drawn call).2.1.clients =
    deployment.holding deployment.engine.services.length call
  counted : ∀ metrics, deployment.engine.metrics? registry = some metrics →
    ∃ next, (deployment.load drawn call).2.1.engine.metrics? registry = some next ∧
      next.loads.count "success" = metrics.loads.count "success" + 1 ∧
      next.loads.count "failure" = metrics.loads.count "failure" ∧
      next.rulesLoaded = rules.length

/-- What a call that gets to load can come to. -/
inductive Ends (deployment : Deployment) (registry : String) (drawn : σ) (call : LoadCall σ)
    (evaluator : Evaluator) : Prop where
  /-- What was waited for raised a failure, or there is no list in the payload. -/
  | raised {failure : Failure} (raises : (call.await drawn).1 = .error failure)
      (fails : deployment.LoadFails registry drawn call failure)
  /-- Some entry is no rule. -/
  | rejected {entries : List RuleInput} {index : Nat} {failure : Failure}
      (delivers : (call.await drawn).1 = .ok entries) (refused : Refused entries index failure)
      (fails : deployment.LoadFails registry drawn call (failure.ofRuleAt index))
  | loaded {entries : List RuleInput} {rules : List Rule}
      (delivers : (call.await drawn).1 = .ok entries) (describe : Describe entries rules)
      (succeeds : deployment.LoadSucceeds registry drawn call evaluator rules)

theorem Comes.fails {drawn : σ} {call : LoadCall σ} {failure : Failure}
    (comes : deployment.Comes drawn call evaluator (some registry) (.error failure)) :
    deployment.LoadFails registry drawn call failure where
  answer := comes.answer
  services := comes.advances.services.trans (List.append_nil _)
  clients := comes.letDown failure rfl
  counted metrics found := by
    obtain ⟨next, found', tracks⟩ := comes.advances.tracks registry metrics found
    have mine : Load.countedIn registry [Load.of (some registry) (.error failure)] =
        [⟨some registry, none⟩] := by simp [Load.countedIn, Load.of, Except.toOption]
    rw [mine] at tracks
    exact ⟨next, found', tracks.failures, tracks.successes, tracks.gauge⟩

theorem Comes.succeeds {drawn : σ} {call : LoadCall σ} {rules : List Rule}
    (comes : deployment.Comes drawn call evaluator (some registry) (.ok rules)) :
    deployment.LoadSucceeds registry drawn call evaluator rules where
  answer := comes.answer
  serves := ⟨_, .of_built comes.advances.services⟩
  clients := comes.held rules rfl
  counted metrics found := by
    obtain ⟨next, found', tracks⟩ := comes.advances.tracks registry metrics found
    have mine : Load.countedIn registry [Load.of (some registry) (.ok rules)] =
        [⟨some registry, some rules.length⟩] := by
      simp [Load.countedIn, Load.of, Except.toOption]
    rw [mine] at tracks
    exact ⟨next, found', tracks.successes, tracks.failures, tracks.gauge⟩

/-- Every call that gets to load comes to one of the three ends. -/
theorem load_ends (shares : deployment.Shares registry) (drawn : σ) {call : LoadCall σ}
    (terms : deployment.terms? call = some (evaluator, some registry)) :
    deployment.Ends registry drawn call evaluator := by
  have comes := load_comes shares drawn terms
  cases delivered : (call.await drawn).1 with
  | error failure =>
      rw [delivered] at comes
      exact .raised delivered comes.fails
  | ok entries =>
      rw [delivered, Except.bind] at comes
      obtain ⟨rules, describe⟩ | ⟨index, failure, refused⟩ := describe_or_refused entries
      · rw [parseRules_of_describe describe] at comes
        exact .loaded delivered describe comes.succeeds
      · rw [parseRules_of_refused refused] at comes
        exact .rejected delivered refused comes.fails

/-! ### Runs of calls -/

theorem collector_of_terms? (shares : deployment.Shares registry) {call : LoadCall σ}
    (counts : call.CountsIn registry)
    (terms : deployment.terms? call = some (evaluator, collector)) : collector = some registry := by
  cases call with
  | source =>
      cases terms
      exact counts
  | fetcher =>
      cases terms
      exact counts
  | client number fetch =>
      obtain ⟨client, found, -, -, rfl⟩ := client_of_terms? terms
      exact shares.collector client (List.mem_of_getElem? found)

theorem Shares.holding (shares : deployment.Shares registry) (resolver : Nat)
    (call : LoadCall σ) (client : Client) (among : client ∈ deployment.holding resolver call) :
    client.Rests ∧ client.collector = some registry := by
  cases call with
  | client number fetch =>
      obtain ⟨place, there⟩ := List.mem_iff_getElem?.1 among
      rw [Deployment.holding, List.getElem?_modify] at there
      obtain ⟨before, found, rfl⟩ := Option.map_eq_some_iff.1 there
      have mine := List.mem_of_getElem? found
      obtain ⟨turn, line⟩ := shares.rests before mine
      have collector := shares.collector before mine
      split
      · exact ⟨⟨turn, line⟩, collector⟩
      · exact ⟨⟨turn, line⟩, collector⟩
  | _ => exact ⟨shares.rests client among, shares.collector client among⟩

theorem Shares.load (shares : deployment.Shares registry) (drawn : σ) (call : LoadCall σ) :
    (deployment.load drawn call).2.1.Shares registry := by
  cases terms : deployment.terms? call with
  | none =>
      rw [(load_of_no_terms shares drawn terms).2]
      exact shares
  | some pair =>
      obtain ⟨evaluator, collector⟩ := pair
      have comes := load_comes shares drawn terms
      cases loaded : (call.await drawn).1.bind parseRules with
      | error failure =>
          have same := comes.letDown failure loaded
          exact ⟨same ▸ shares.rests, same ▸ shares.collector⟩
      | ok rules =>
          have held := comes.held rules loaded
          have kept := shares.holding deployment.engine.services.length call
          exact ⟨fun client among => (kept client (held ▸ among)).1,
            fun client among => (kept client (held ▸ among)).2⟩

/-- The call whose waits are counted. -/
def LoadCall.counted : LoadCall σ → LoadCall (σ × Nat)
  | .source evaluator collector loader => .source evaluator collector loader.counted
  | .fetcher evaluator collector fetch => .fetcher evaluator collector fetch.counted
  | .client number fetch => .client number fetch.counted

theorem await_counted (call : LoadCall σ) (drawn : σ) (waits : Nat) :
    call.counted.await (drawn, waits) =
      ((call.await drawn).1, (call.await drawn).2, waits + 1) := by
  cases call <;> rfl

theorem terms?_counted (deployment : Deployment) (call : LoadCall σ) :
    deployment.terms? call.counted = deployment.terms? call := by
  cases call <;> rfl

/-- A call that gets to load waits once. -/
theorem load_counted_of_terms (shares : deployment.Shares registry) {call : LoadCall σ}
    (terms : deployment.terms? call = some (evaluator, collector)) (drawn : σ) (waits : Nat) :
    (deployment.load (drawn, waits) call.counted).2.2 = ((call.await drawn).2, waits + 1) := by
  rw [← terms?_counted] at terms
  rw [(load_comes shares (drawn, waits) terms).awaited, await_counted]

/-- The registry counts as many loads for a call as the call waits. -/
theorem load_tracks (shares : deployment.Shares registry) {call : LoadCall σ}
    (counts : call.CountsIn registry) {metrics : Metrics}
    (found : deployment.engine.metrics? registry = some metrics) (drawn : σ) (waits : Nat) :
    ∃ next loads,
      (deployment.load (drawn, waits) call.counted).2.1.engine.metrics? registry = some next ∧
        metrics.Tracks next loads ∧
        (deployment.load (drawn, waits) call.counted).2.2.2 = waits + loads.length := by
  cases terms : deployment.terms? call with
  | none =>
      rw [← terms?_counted] at terms
      rw [(load_of_no_terms shares (drawn, waits) terms).2]
      exact ⟨metrics, [], found, .refl metrics, rfl⟩
  | some pair =>
      obtain ⟨evaluator, collector⟩ := pair
      obtain rfl := collector_of_terms? shares counts terms
      rw [load_counted_of_terms shares terms]
      rw [← terms?_counted] at terms
      obtain ⟨next, found', tracks⟩ :=
        (load_comes shares (drawn, waits) terms).advances.tracks registry metrics found
      refine ⟨next, _, found', tracks, ?_⟩
      simp [Load.countedIn, Load.of]

/-- The registry counts as many loads for a run of calls as the calls wait. -/
theorem loadAll_tracks (shares : deployment.Shares registry) {metrics : Metrics}
    (found : deployment.engine.metrics? registry = some metrics) {calls : List (LoadCall σ)}
    (counts : ∀ call ∈ calls, call.CountsIn registry) (drawn : σ) (waits : Nat) :
    ∃ next loads,
      (deployment.loadAll (drawn, waits) (calls.map .counted)).1.engine.metrics? registry =
          some next ∧
        metrics.Tracks next loads ∧
        (deployment.loadAll (drawn, waits) (calls.map .counted)).2.2 = waits + loads.length ∧
        (deployment.loadAll (drawn, waits) (calls.map .counted)).1.Shares registry := by
  -- Along the calls everything moves on: the deployment, its readings, and the count of waits.
  induction calls generalizing deployment metrics drawn waits with
  | nil => exact ⟨metrics, [], found, .refl metrics, rfl, shares⟩
  | cons call rest ih =>
      obtain ⟨next, loads, found', tracks, waited⟩ :=
        load_tracks shares (counts call List.mem_cons_self) found drawn waits
      obtain ⟨last, others, found'', tracks', waited', shares'⟩ :=
        ih (shares.load (drawn, waits) call.counted) found'
          (fun other among => counts other (List.mem_cons_of_mem _ among))
          (deployment.load (drawn, waits) call.counted).2.2.1
          (deployment.load (drawn, waits) call.counted).2.2.2
      refine ⟨last, loads ++ others, found'', tracks.trans tracks', ?_, shares'⟩
      rw [List.length_append, ← Nat.add_assoc, ← waited]
      exact waited'

/-- What the next call comes to, and how often it waits. -/
structure Accounted (deployment : Deployment) (registry : String) (drawn : σ)
    (call : LoadCall σ) : Prop where
  /-- A call that gets to load waits once. -/
  waits : ∀ terms ∈ deployment.terms? call, ∀ waits,
    (deployment.load (drawn, waits) call.counted).2.2 = ((call.await drawn).2, waits + 1)
  /-- It fails as what it waited for raised, or as the first entry is refused that is no rule, or
  else it succeeds. -/
  ends : ∀ terms ∈ deployment.terms? call, deployment.Ends registry drawn call terms.1
  /-- Any other call fails, and changes nothing. -/
  idle : deployment.terms? call = none →
    ((deployment.load drawn call).1 = .unknown ∨
      (deployment.load drawn call).1 = .failed (.report .alreadyInitialized)) ∧
    (deployment.load drawn call).2 = (deployment, drawn)

theorem Shares.accounted (shares : deployment.Shares registry) (drawn : σ) {call : LoadCall σ}
    (counts : call.CountsIn registry) : deployment.Accounted registry drawn call where
  waits terms given waits := load_counted_of_terms shares given drawn waits
  ends terms given := by
    obtain ⟨evaluator, collector⟩ := terms
    obtain rfl := collector_of_terms? shares counts given
    exact load_ends shares drawn given
  idle := load_of_no_terms shares drawn

/-- **Every wait is counted.** In any deployment whose clients share a registry, whatever is counted
there already, let any calls load rules by loaders and fetches that may do anything. The successful
and the failed loads that the registry counts are then as many more as there were waits; and the
next call, whatever it is, waits once and is counted once, by what it came to. -/
theorem awaits_accounted (shares : deployment.Shares registry) {metrics : Metrics}
    (found : deployment.engine.metrics? registry = some metrics) {calls : List (LoadCall σ)}
    (counts : ∀ call ∈ calls, call.CountsIn registry) (drawn : σ) :
    let (now, _, waits) := deployment.loadAll (drawn, 0) (calls.map .counted)
    (∃ next, now.engine.metrics? registry = some next ∧
      next.loads.count "success" + next.loads.count "failure" =
        metrics.loads.count "success" + metrics.loads.count "failure" + waits) ∧
      ∀ (drawn : σ) (call : LoadCall σ), call.CountsIn registry →
        now.Accounted registry drawn call := by
  obtain ⟨next, loads, found', tracks, waited, shares'⟩ :=
    loadAll_tracks shares found counts drawn 0
  refine ⟨⟨next, found', ?_⟩, fun drawn call counts => shares'.accounted drawn counts⟩
  rw [tracks.total, waited, Nat.zero_add]

/-- A loader that raises at first and delivers afterwards, and a fetch of an entry that is no rule,
by itself and for a client; a failed load is counted already. -/
theorem awaits_accounted_of_loader_that_recovers :
    let rule : Rule := ⟨"document", "read", none, none, nofun⟩
    let loader : Awaitable Nat (List RuleInput) := fun tries =>
      (if tries = 0 then .error (.fault (.connection "refused")) else .ok [.rule rule], tries + 1)
    let fetch : Awaitable Nat Payload := fun tries =>
      (.ok (.document (.record [("data", .array [.text "no rule"])])), tries + 1)
    let metrics : Metrics := (Metrics.ofService "permissions").recordLoad "failure" none
    let deployment : Deployment :=
      ⟨{ Engine.initial with registries := [("main", metrics)] }, [.new .standard (some "main")], 0⟩
    let calls : List (LoadCall Nat) :=
      [.source .standard (some "main") loader, .source .standard (some "main") loader,
        .fetcher .standard (some "main") fetch, .client 0 fetch]
    let (now, _, waits) := deployment.loadAll (0, 0) (calls.map .counted)
    deployment.Shares "main" ∧ deployment.engine.metrics? "main" = some metrics ∧
      (∀ call ∈ calls, call.CountsIn "main") ∧ waits = 4 ∧
      (∃ next, now.engine.metrics? "main" = some next ∧
        next.loads.count "success" + next.loads.count "failure" = 1 + waits) ∧
      ∀ tries call, call.CountsIn "main" → now.Accounted "main" (tries : Nat) call := by
  intro rule loader fetch metrics deployment calls
  have shares : deployment.Shares "main" := by
    constructor
    · intro client among
      obtain rfl := List.mem_singleton.1 among
      exact ⟨rfl, rfl⟩
    · intro client among
      obtain rfl := List.mem_singleton.1 among
      rfl
  have found : deployment.engine.metrics? "main" = some metrics := rfl
  have counts : ∀ call ∈ calls, call.CountsIn "main" := by
    intro call among
    simp only [calls, List.mem_cons, List.not_mem_nil, or_false] at among
    rcases among with rfl | rfl | rfl | rfl
    · exact rfl
    · exact rfl
    · exact rfl
    · exact trivial
  obtain ⟨⟨next, found', total⟩, accounted⟩ := awaits_accounted shares found counts 0
  exact ⟨shares, found, counts, rfl, ⟨next, found', total⟩, accounted⟩

end Deployment

end AccessRules
