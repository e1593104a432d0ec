import AccessRules.Proofs.Client.Event
import AccessRules.Proofs.Loading.Parse

/-!
# Resolvers over rules

What is left of a load that succeeds is a resolver of the engine over certain rules (`Serves`).
Whoever asks it sees nothing but these rules and the evaluator: its listing of rules, and its
decision on every request (`Serves.view_eq`, `Serves.decide_eq`). Here every step that builds such a
resolver or adds to it has its lemma; `finishLoad_serves` and `finishLoad_of_error` say what
a load comes to.
-/

namespace AccessRules

/-- A resolver over rules that nobody has read yet. -/
def Resolver.over (rules : List Rule) (evaluator : Evaluator) : Resolver :=
  ⟨⟨rules, 0, 0, none⟩, evaluator⟩

/-- Two stores that readers see alike have the same candidates for a request. -/
theorem Store.matching_congr {one other : Store} (alike : one.view = other.view)
    (type action : Document) : one.matching type action = other.matching type action := by
  rw [matching, matching, alike]

namespace Engine

/-- The resolver of the number is over the rules, and the evaluator is its own. -/
structure Serves (engine : Engine) (number : Nat) (rules : List Rule) (evaluator : Evaluator)
    (service : Service) : Prop where
  found : engine.services[number]? = some service
  coherent : service.resolver.store.Coherent
  rules : service.resolver.store.rules = rules
  evaluator : service.resolver.evaluator = evaluator

@[simp] theorem tell_services (engine : Engine) (collector : Option String) (notice : Notice) :
    (engine.tell collector notice).services = engine.services := by
  cases collector <;> rfl

variable {engine : Engine} {number : Nat} {rules : List Rule} {evaluator : Evaluator}
  {service : Service}

/-! ### What is seen of it -/

theorem Serves.view_eq (serves : engine.Serves number rules evaluator service) :
    service.resolver.store.view = rules :=
  serves.coherent.view_eq.trans serves.rules

/-- The decision depends on the rules and the evaluator alone. -/
theorem Serves.decide_eq (serves : engine.Serves number rules evaluator service)
    (subject : Subject) (resource : Resource) (action : Document) :
    (engine.decide service subject resource action).1 =
      (Resolver.over rules evaluator).decide subject resource action := by
  have alike : service.resolver.store.view = (Resolver.over rules evaluator).store.view :=
    serves.view_eq
  have matched := Store.matching_congr alike resource.type action
  simp [decide, Resolver.decide, Resolver.examine, matched, serves.evaluator, Resolver.over]

theorem Serves.tell (serves : engine.Serves number rules evaluator service)
    (collector : Option String) (notice : Notice) :
    (engine.tell collector notice).Serves number rules evaluator service :=
  { serves with found := by rw [tell_services]; exact serves.found }

/-! ### How it comes about -/

/-- A new resolver is the next one of the engine. -/
theorem newResolver_of_describe {inputs : List RuleInput} (describe : Describe inputs rules)
    (engine : Engine) (evaluator : Evaluator) (collector : Option String) :
    engine.newResolver evaluator collector inputs = .ok (engine.services.length,
      { engine with
        stores := engine.stores + 1
        services := engine.services ++
          [⟨⟨⟨rules, engine.stores, 0, none⟩, evaluator⟩, collector⟩] }) := by
  simp only [newResolver, newStore, Store.ofInputs, Store.rulesOf_of_describe describe,
    addService, bind, Except.bind, pure, Except.pure]

theorem newResolver_serves {inputs : List RuleInput} (describe : Describe inputs rules)
    (engine : Engine) (evaluator : Evaluator) (collector : Option String) :
    ∃ next service,
      engine.newResolver evaluator collector inputs = .ok (engine.services.length, next) ∧
        next.Serves engine.services.length rules evaluator service :=
  ⟨_, _, newResolver_of_describe describe engine evaluator collector,
    ⟨List.getElem?_concat_length, Store.coherent_of_cached_eq_none rfl, rfl, rfl⟩⟩

/-- The store of a resolver is replaced by another one. -/
theorem Serves.setStore (serves : engine.Serves number rules evaluator service) {store : Store}
    (coherent : store.Coherent) :
    (engine.setResolver number { service.resolver with store := store }).Serves number store.rules
      evaluator { service with resolver := { service.resolver with store := store } } where
  found := by simp [setResolver, serves.found]
  coherent := coherent
  rules := rfl
  evaluator := serves.evaluator

/-- A rule that is added stands behind the others. -/
theorem Serves.addRule {input : RuleInput} {rule : Rule}
    (serves : engine.Serves number rules evaluator service) (made : input.toRule = .ok rule) :
    ∃ next grown, engine.addRule number service input = .ok (rule, next) ∧
      next.Serves number (rules ++ [rule]) evaluator grown := by
  obtain ⟨store, added, grown, dropped⟩ : ∃ store,
      service.resolver.store.add input = .ok (rule, store) ∧
        store.rules = rules ++ [rule] ∧ store.cached = none := by
    refine ⟨{ service.resolver.store with
      rules := service.resolver.store.rules ++ [rule], cached := none }, ?_, ?_, rfl⟩
    · simp only [Store.add, made, bind, Except.bind, pure, Except.pure]
    · exact congrArg (· ++ [rule]) serves.rules
  have stored := serves.setStore (Store.coherent_of_cached_eq_none dropped)
  rw [grown] at stored
  refine ⟨_, _, ?_, stored.tell none (.ruleAdded rule)⟩
  simp only [Engine.addRule, added, bind, Except.bind, pure, Except.pure]

theorem addRule_of_refused {input : RuleInput} {failure : Failure}
    (fails : input.toRule = .error failure) (engine : Engine) (number : Nat) (service : Service) :
    engine.addRule number service input = .error failure := by
  simp only [Engine.addRule, Store.add, fails, bind, Except.bind]

/-- Add inputs to the resolver of a number, one after another; the first that is no rule ends it.
Nothing is added to a resolver that is not there. -/
def addAll (engine : Engine) (number : Nat) : List RuleInput → Except Failure Engine
  | [] => .ok engine
  | input :: rest => match engine.services[number]? with
    | none => .ok engine
    | some service => do
        let (_, engine) ← engine.addRule number service input
        addAll engine number rest

theorem Serves.addAll {inputs : List RuleInput} {added : List Rule}
    (serves : engine.Serves number rules evaluator service) (describe : Describe inputs added) :
    ∃ next grown, engine.addAll number inputs = .ok next ∧
      next.Serves number (rules ++ added) evaluator grown := by
  induction inputs generalizing engine rules service added with
  | nil =>
      obtain rfl := describe_nil_iff.1 describe
      exact ⟨engine, service, rfl, by simpa using serves⟩
  | cons input rest ih =>
      obtain ⟨rule, others, made, rest, rfl⟩ := describe_cons.1 describe
      obtain ⟨next, grown, first, serves'⟩ := serves.addRule made
      obtain ⟨last, grown', all, serves''⟩ := ih serves' rest
      refine ⟨last, grown', ?_, by simpa using serves''⟩
      simp only [Engine.addAll, serves.found, first, all, bind, Except.bind]

theorem Serves.addAll_of_refused {inputs : List RuleInput} {index : Nat} {failure : Failure}
    (serves : engine.Serves number rules evaluator service)
    (refused : Refused inputs index failure) : engine.addAll number inputs = .error failure := by
  induction refused generalizing engine rules service with
  | here fails =>
      simp only [Engine.addAll, serves.found, addRule_of_refused fails, bind, Except.bind]
  | later made _ ih =>
      obtain ⟨next, grown, first, serves'⟩ := serves.addRule made
      simp only [Engine.addAll, serves.found, first, ih serves', bind, Except.bind]

/-! ### What a load comes to -/

/-- A load with rules ends with a resolver over them, the next one of the engine. -/
theorem finishLoad_serves (rules : List Rule) (engine : Engine) (evaluator : Evaluator)
    (collector : Option String) :
    ∃ next service, engine.finishLoad evaluator collector (.ok rules) =
        (.ok engine.services.length, next) ∧
      next.Serves engine.services.length rules evaluator service := by
  obtain ⟨next, service, made, serves⟩ := newResolver_serves (describe_map_rule rules)
    (engine.tell collector (.rulesLoaded rules.length)) evaluator collector
  rw [tell_services] at made serves
  exact ⟨next, service, by simp only [finishLoad, made], serves⟩

/-- A load that fails is told, and its failure is passed on as it is. -/
theorem finishLoad_of_error (failure : Failure) (engine : Engine) (evaluator : Evaluator)
    (collector : Option String) :
    engine.finishLoad evaluator collector (.error failure) =
      (.error failure, engine.tell collector (.loadFailed failure)) := rfl

/-- A load gives the number of the resolver that it builds, or the failure that it met. -/
theorem finishLoad_fst (engine : Engine) (evaluator : Evaluator) (collector : Option String)
    (loaded : Except Failure (List Rule)) :
    (engine.finishLoad evaluator collector loaded).1 =
      loaded.map fun _ => engine.services.length := by
  cases loaded with
  | error failure => rfl
  | ok rules =>
      obtain ⟨next, service, finished, -⟩ := finishLoad_serves rules engine evaluator collector
      rw [finished]
      rfl

end Engine

/-! ### What a client comes to -/

namespace Client

/-- A client takes the resolver over the rules that a fetch brought, and frees the turn. -/
theorem finish_of_ok {fetched : Fetched} {rules : List Rule} (brought : fetched.rules = .ok rules)
    (client : Client) (engine : Engine) :
    ∃ next service, client.finish engine fetched =
        (.ok engine.services.length,
          { client with turn := none, resolver := some engine.services.length }, next) ∧
      next.Serves engine.services.length rules client.evaluator service := by
  obtain ⟨next, service, finished, serves⟩ :=
    Engine.finishLoad_serves rules engine client.evaluator client.collector
  refine ⟨_, service, ?_, serves.tell none (.clientReady (ruleCount next engine.services.length))⟩
  simp only [finish, Engine.loadFromFetch, brought, finished, take]

theorem finish_of_error {fetched : Fetched} {failure : Failure}
    (brought : fetched.rules = .error failure) (client : Client) (engine : Engine) :
    client.finish engine fetched = (.error failure, { client with turn := none },
      engine.tell client.collector (.loadFailed failure)) := by
  simp only [finish, Engine.loadFromFetch, brought, Engine.finishLoad_of_error]

/-- A new client fetches at once. -/
theorem initializeByFetch_new (evaluator : Evaluator) (collector : Option String)
    (engine : Engine) (fetch : Engine → Fetched × Engine) :
    (new evaluator collector).initializeByFetch engine fetch =
      { new evaluator collector with turn := some 0 }.finish (fetch engine).2 (fetch engine).1 :=
  rfl

theorem initializeFromRules_of_describe {inputs : List RuleInput} {rules : List Rule}
    {client : Client} (fresh : client.resolver = none) (describe : Describe inputs rules)
    (engine : Engine) :
    ∃ next service, client.initializeFromRules engine inputs =
        (.ok engine.services.length, { client with resolver := some engine.services.length },
          next) ∧
      next.Serves engine.services.length rules client.evaluator service := by
  obtain ⟨next, service, made, serves⟩ :=
    Engine.newResolver_serves describe engine client.evaluator client.collector
  refine ⟨_, service, ?_, serves.tell none (.clientReady (ruleCount next engine.services.length))⟩
  simp [initializeFromRules, isInitialized, fresh, made, take]

theorem initializeFromRules_of_refused {inputs : List RuleInput} {index : Nat} {failure : Failure}
    {client : Client} (fresh : client.resolver = none) (refused : Refused inputs index failure)
    (engine : Engine) :
    client.initializeFromRules engine inputs = (.error failure, client, engine) := by
  have made := Engine.newResolver_of_error (Store.rulesOf_of_refused refused) engine
    client.evaluator client.collector
  simp [initializeFromRules, isInitialized, fresh, made]

end Client

end AccessRules
