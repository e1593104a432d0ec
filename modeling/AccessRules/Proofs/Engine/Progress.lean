import AccessRules.Deployment
import AccessRules.Proofs.Loading.Serve
import AccessRules.Proofs.Metrics.Accounts

/-!
# How an engine goes on

Whatever an engine does, it builds resolvers and counts; what was built before stays where it is.
`Engine.Proceeds` says so of one stretch: the resolvers after it are those before and new ones
behind, and the counters of every registry account for the rulings of the stretch. Every function
that takes an engine and gives the next one has one lemma here, up to the start of a client
(`attempt_proceeds`). Only the adding of a rule is another matter: it changes a resolver.
-/

namespace AccessRules

namespace Engine

/-! ### Counters -/

theorem metrics?_updateMetrics (engine : Engine) (registry : String) (change : Metrics → Metrics)
    (asked : String) :
    (engine.updateMetrics registry change).metrics? asked =
      if registry = asked then (engine.metrics? asked).map change else engine.metrics? asked := by
  rw [metrics?, metrics?, updateMetrics]
  -- The first entry of a name is the one that counts, and the change meets it first as well.
  induction engine.registries with
  | nil => simp
  | cons entry rest ih =>
      obtain ⟨name, metrics⟩ := entry
      by_cases mine : name = registry
      · subst mine
        by_cases found : asked = name
        · simp [found]
        · simpa [List.lookup_cons, beq_false_of_ne found, Ne.symm found] using ih
      · by_cases found : asked = name
        · subst found
          simp [mine, Ne.symm mine]
        · simpa [List.lookup_cons, mine, beq_false_of_ne found] using ih

/-- A notice is counted in the registry of the collector and nowhere else. -/
theorem metrics?_tell (engine : Engine) (collector : Option String) (notice : Notice)
    (asked : String) :
    (engine.tell collector notice).metrics? asked =
      if collector = some asked then (engine.metrics? asked).map (·.observe notice)
      else engine.metrics? asked := by
  cases collector with
  | none => rfl
  | some registry =>
      rw [tell]
      simp only [metrics?_updateMetrics, Option.some.injEq]
      rfl

theorem metrics?_tellAll (engine : Engine) (collector : Option String) (notices : List Notice)
    (asked : String) :
    (engine.tellAll collector notices).metrics? asked =
      if collector = some asked then (engine.metrics? asked).map (notices.foldl Metrics.observe)
      else engine.metrics? asked := by
  induction notices generalizing engine with
  | nil => simp [tellAll]
  | cons notice rest ih =>
      refine (ih (engine.tell collector notice)).trans ?_
      rw [metrics?_tell]
      split
      · rw [Option.map_map]; rfl
      · rfl

@[simp] theorem tell_stores (engine : Engine) (collector : Option String) (notice : Notice) :
    (engine.tell collector notice).stores = engine.stores := by
  cases collector <;> rfl

@[simp] theorem tellAll_services (engine : Engine) (collector : Option String)
    (notices : List Notice) : (engine.tellAll collector notices).services = engine.services := by
  induction notices generalizing engine with
  | nil => rfl
  | cons notice rest ih => exact (ih _).trans (tell_services engine collector notice)

/-! ### Going on -/

/-- The resolvers are those of before, with new ones behind. -/
def Grows (before after : Engine) : Prop :=
  ∃ more, after.services = before.services ++ more ∧
    ∀ service ∈ more, service.resolver.store.Coherent

/-- The counters of every registry account for the rulings that are counted in it. -/
def Counts (before after : Engine) (rulings : List Ruling) : Prop :=
  ∀ registry metrics, before.metrics? registry = some metrics →
    ∃ next, after.metrics? registry = some next ∧
      metrics.Accounts next (Ruling.countedIn registry rulings)

/-- The engine made some rulings; besides, it built resolvers and counted other things at most. -/
structure Proceeds (before after : Engine) (rulings : List Ruling) : Prop where
  grows : before.Grows after
  counts : before.Counts after rulings

variable {engine before between after : Engine} {earlier later rulings : List Ruling}

theorem Grows.of_eq (same : after.services = before.services) : before.Grows after :=
  ⟨[], by rw [same, List.append_nil], by simp⟩

theorem Grows.trans (first : before.Grows between) (second : between.Grows after) :
    before.Grows after := by
  obtain ⟨more, grown, coherent⟩ := first
  obtain ⟨more', grown', coherent'⟩ := second
  refine ⟨more ++ more', by rw [grown', grown, List.append_assoc], fun service among => ?_⟩
  obtain among | among := List.mem_append.1 among
  · exact coherent service among
  · exact coherent' service among

/-- A resolver keeps its number. -/
theorem Grows.getElem? (grows : before.Grows after) {number : Nat} {service : Service}
    (found : before.services[number]? = some service) :
    after.services[number]? = some service := by
  obtain ⟨more, grown, -⟩ := grows
  obtain ⟨inside, -⟩ := List.getElem?_eq_some_iff.1 found
  rw [grown, List.getElem?_append_left inside]
  exact found

theorem Counts.of_eq (same : ∀ registry, after.metrics? registry = before.metrics? registry) :
    before.Counts after [] :=
  fun registry metrics found => ⟨metrics, by rw [same, found], .refl metrics⟩

theorem Counts.trans (first : before.Counts between earlier)
    (second : between.Counts after later) : before.Counts after (earlier ++ later) := by
  intro registry metrics found
  obtain ⟨next, found', accounts⟩ := first registry metrics found
  obtain ⟨last, found'', accounts'⟩ := second registry next found'
  exact ⟨last, found'', Ruling.countedIn_append registry earlier later ▸ accounts.trans accounts'⟩

theorem Proceeds.refl (engine : Engine) : engine.Proceeds engine [] :=
  ⟨.of_eq rfl, .of_eq fun _ => rfl⟩

theorem Proceeds.trans (first : before.Proceeds between earlier)
    (second : between.Proceeds after later) : before.Proceeds after (earlier ++ later) :=
  ⟨first.grows.trans second.grows, first.counts.trans second.counts⟩

/-- A stretch without rulings may come before any other. -/
theorem Proceeds.silent (first : before.Proceeds between [])
    (second : between.Proceeds after rulings) : before.Proceeds after rulings :=
  first.trans second

/-! ### Telling and deciding -/

/-- What is told without a collector is not counted. -/
theorem tellAll_none_proceeds (engine : Engine) (notices : List Notice) :
    engine.Proceeds (engine.tellAll none notices) [] :=
  ⟨.of_eq (tellAll_services ..), .of_eq fun registry => by simp [metrics?_tellAll]⟩

theorem tell_none_proceeds (engine : Engine) (notice : Notice) :
    engine.Proceeds (engine.tell none notice) [] :=
  engine.tellAll_none_proceeds [notice]

theorem tell_proceeds {notice : Notice} (unruled : ¬ notice.IsRuled) (engine : Engine)
    (collector : Option String) : engine.Proceeds (engine.tell collector notice) [] where
  grows := .of_eq (tell_services ..)
  counts registry metrics found := by
    rw [metrics?_tell, found]
    split
    · exact ⟨_, rfl, .of_unruled unruled metrics⟩
    · exact ⟨metrics, rfl, .refl metrics⟩

/-- The ruling of a resolver on a request. -/
def ruling (service : Service) (subject : Subject) (resource : Resource) (action : Document) :
    Ruling :=
  ⟨service.collector, resource.type, action, service.resolver.decide subject resource action⟩

theorem decide_proceeds (engine : Engine) (service : Service) (subject : Subject)
    (resource : Resource) (action : Document) :
    engine.Proceeds (engine.decide service subject resource action).2
      [ruling service subject resource action] where
  grows := .of_eq (tellAll_services ..)
  counts registry metrics found := by
    simp only [decide, metrics?_tellAll, found]
    -- The ruling is entered where the resolver counts, and leaves every other registry alone.
    by_cases counted : service.collector = some registry
    · have mine : Ruling.countedIn registry [ruling service subject resource action] =
          [ruling service subject resource action] := by simp [Ruling.countedIn, ruling, counted]
      rw [if_pos counted, mine]
      exact ⟨_, rfl, metrics.accounts_noticesOf ..⟩
    · have none : Ruling.countedIn registry [ruling service subject resource action] = [] := by
        simp [Ruling.countedIn, ruling, counted]
      rw [if_neg counted, none]
      exact ⟨metrics, rfl, .refl metrics⟩

theorem grantedAmong_proceeds (engine : Engine) (service : Service) (subject : Subject)
    (resource : Resource) (actions : List String) :
    engine.Proceeds (engine.grantedAmong service subject resource actions).2
      (actions.map fun action => ruling service subject resource (.text action)) := by
  induction actions generalizing engine with
  | nil => exact .refl engine
  | cons action rest ih =>
      exact (engine.decide_proceeds service subject resource (.text action)).trans (ih _)

theorem allowedActions_proceeds (engine : Engine) (service : Service) (subject : Subject)
    (resource : Resource) :
    engine.Proceeds (engine.allowedActions service subject resource).2
      ((service.resolver.actionsFor resource.type).map fun action =>
        ruling service subject resource (.text action)) :=
  engine.grantedAmong_proceeds service subject resource _

/-! ### Building resolvers -/

/-- The resolver over rules that the engine builds next. -/
def built (engine : Engine) (rules : List Rule) (evaluator : Evaluator)
    (collector : Option String) : Service :=
  ⟨⟨⟨rules, engine.stores, 0, none⟩, evaluator⟩, collector⟩

theorem Serves.of_built {rules : List Rule} {evaluator : Evaluator} {collector : Option String}
    (grown : after.services = before.services ++ [before.built rules evaluator collector]) :
    after.Serves before.services.length rules evaluator
      (before.built rules evaluator collector) where
  found := by rw [grown]; exact List.getElem?_concat_length
  coherent := Store.coherent_of_cached_eq_none rfl
  rules := rfl
  evaluator := rfl

theorem newResolver_proceeds {evaluator : Evaluator} {collector : Option String}
    {inputs : List RuleInput} {built : Nat × Engine}
    (made : engine.newResolver evaluator collector inputs = .ok built) :
    engine.Proceeds built.2 [] := by
  obtain ⟨rules, describe⟩ | ⟨index, failure, refused⟩ := describe_or_refused inputs
  · rw [newResolver_of_describe describe] at made
    obtain rfl := Except.ok.inj made
    refine ⟨⟨_, rfl, fun service among => ?_⟩, .of_eq fun _ => rfl⟩
    obtain rfl := List.mem_singleton.1 among
    exact Store.coherent_of_cached_eq_none rfl
  · rw [newResolver_of_error (Store.rulesOf_of_refused refused)] at made
    cases made

theorem finishLoad_proceeds (engine : Engine) (evaluator : Evaluator) (collector : Option String)
    (loaded : Except Failure (List Rule)) :
    engine.Proceeds (engine.finishLoad evaluator collector loaded).2 [] := by
  cases loaded with
  | error failure => exact engine.tell_proceeds id collector
  | ok rules =>
      have told : engine.Proceeds (engine.tell collector (.rulesLoaded rules.length)) [] :=
        engine.tell_proceeds id collector
      rw [finishLoad]
      cases made : (engine.tell collector (.rulesLoaded rules.length)).newResolver evaluator
          collector (rules.map .rule) with
      | error failure => exact told
      | ok built => exact told.silent (newResolver_proceeds made)

theorem register_proceeds {registry service : String} {next : Engine}
    (registered : engine.register registry service = .ok next) : engine.Proceeds next [] := by
  rw [register] at registered
  cases taken : engine.metrics? registry with
  | some metrics =>
      rw [taken] at registered
      cases registered
  | none =>
      rw [taken] at registered
      obtain rfl := Except.ok.inj registered
      -- The new entry stands behind the others, where it hides none of them.
      refine ⟨.of_eq rfl, fun asked metrics found => ⟨metrics, ?_, .refl metrics⟩⟩
      rw [metrics?] at found ⊢
      rw [List.lookup_append, found, Option.some_or]

/-- A rule that is added goes to the store of one resolver; it is told, and not counted. -/
theorem addRule_of_made {input : RuleInput} {rule : Rule} (made : input.toRule = .ok rule)
    (engine : Engine) (number : Nat) (service : Service) :
    engine.addRule number service input = .ok (rule,
      (engine.setResolver number { service.resolver with
        store := { service.resolver.store with
          rules := service.resolver.store.rules ++ [rule], cached := none } }).tell none
        (.ruleAdded rule)) := by
  simp only [addRule, Store.add, made, bind, Except.bind, pure, Except.pure]

theorem configureLogging_proceeds (engine : Engine) (service : String) (level : Document) :
    engine.Proceeds (engine.configureLogging service level).2 [] := by
  have set (logging : Logging) : engine.Proceeds { engine with logging := logging } [] :=
    ⟨.of_eq rfl, .of_eq fun _ => rfl⟩
  rw [configureLogging]
  split
  · exact (set _).silent (tell_none_proceeds _ _)
  · exact set _

end Engine

/-! ### Fetching -/

theorem Fetch.run_proceeds (fetch : Fetch) (engine : Engine) :
    engine.Proceeds (fetch.run engine).2 [] :=
  engine.tellAll_none_proceeds fetch.told

/-- Reading a file comes to the same for every engine, which hears the same of it. -/
theorem RuleFile.exists_fetch (file : RuleFile) :
    ∃ fetch : Fetch, ∀ engine, file.fetch engine = fetch.run engine := by
  obtain ⟨path, state⟩ := file
  cases state with
  | missing => exact ⟨⟨_, [_]⟩, fun _ => rfl⟩
  | directory => exact ⟨⟨_, [_]⟩, fun _ => rfl⟩
  | content bytes remark =>
      simp only [RuleFile.fetch]
      split
      · exact ⟨⟨_, []⟩, fun _ => rfl⟩
      · exact ⟨⟨_, [_]⟩, fun _ => rfl⟩
      · exact ⟨⟨_, []⟩, fun _ => rfl⟩

theorem RuleAddress.exists_fetch (address : RuleAddress) (reply : Reply) :
    ∃ fetch : Fetch, ∀ engine, address.fetch reply engine = fetch.run engine := by
  cases reply with
  | failed message => exact ⟨⟨_, [_]⟩, fun _ => rfl⟩
  | answered status body =>
      simp only [RuleAddress.fetch]
      split
      · exact ⟨⟨_, [_]⟩, fun _ => rfl⟩
      · split
        · exact ⟨⟨_, [_]⟩, fun _ => rfl⟩
        · exact ⟨⟨_, []⟩, fun _ => rfl⟩

theorem RuleSource.exists_fetch (source : RuleSource) (providers : Providers) :
    ∃ fetch : Fetch, ∀ engine, source.fetch providers engine = fetch.run engine := by
  cases source with
  | network address => exact address.exists_fetch _
  | file path => exact RuleFile.exists_fetch _

theorem RuleSource.fetch_proceeds (source : RuleSource) (providers : Providers)
    (engine : Engine) : engine.Proceeds (source.fetch providers engine).2 [] := by
  obtain ⟨fetch, same⟩ := source.exists_fetch providers
  rw [same]
  exact fetch.run_proceeds engine

/-! ### Clients -/

namespace Client

theorem finish_proceeds (client : Client) (engine : Engine) (fetched : Fetched) :
    engine.Proceeds (client.finish engine fetched).2.2 [] := by
  have loaded := engine.finishLoad_proceeds client.evaluator client.collector fetched.rules
  rw [finish, Engine.loadFromFetch]
  cases came : engine.finishLoad client.evaluator client.collector fetched.rules with
  | mk result next =>
    rw [came] at loaded
    cases result with
    | ok number => exact loaded.silent (Engine.tell_none_proceeds _ _)
    | error failure => exact loaded

theorem initializeByFetch_proceeds {fetch : Engine → Fetched × Engine}
    (fetches : ∀ engine : Engine, engine.Proceeds (fetch engine).2 []) (client : Client)
    (engine : Engine) : engine.Proceeds (client.initializeByFetch engine fetch).2.2 [] := by
  rw [initializeByFetch]
  split
  · exact (fetches engine).silent (finish_proceeds ..)
  · exact .refl engine
  · exact .refl engine

theorem initializeFromRules_proceeds (client : Client) (engine : Engine)
    (inputs : List RuleInput) :
    engine.Proceeds (client.initializeFromRules engine inputs).2.2 [] := by
  rw [initializeFromRules]
  split
  · exact .refl engine
  · cases made : engine.newResolver client.evaluator client.collector inputs with
    | error failure => exact .refl engine
    | ok built => exact (Engine.newResolver_proceeds made).silent (Engine.tell_none_proceeds _ _)

/-- A new client that got a resolver. -/
def withResolver (evaluator : Evaluator) (collector : Option String) (resolver : Nat) : Client :=
  { new evaluator collector with resolver := some resolver }

/-- A new client takes the resolver over the rules that a fetch brings, the next one of the
engine. -/
theorem initializeByFetch_new_of_ok {engine : Engine} {fetch : Engine → Fetched × Engine}
    {rules : List Rule} (evaluator : Evaluator) (collector : Option String)
    (brought : (fetch engine).1.rules = .ok rules) :
    ∃ next, (new evaluator collector).initializeByFetch engine fetch =
        (.ok (fetch engine).2.services.length,
          withResolver evaluator collector (fetch engine).2.services.length, next) ∧
      next.services = (fetch engine).2.services ++
        [(fetch engine).2.built rules evaluator collector] := by
  rw [initializeByFetch_new, finish, Engine.loadFromFetch, brought, Engine.finishLoad,
    Engine.newResolver_of_describe (describe_map_rule rules)]
  simp only [Engine.tell_services, take]
  refine ⟨_, rfl, ?_⟩
  rw [Engine.tell_services, Engine.tell_stores]
  rfl

theorem initializeByFetch_new_of_error {engine : Engine} {fetch : Engine → Fetched × Engine}
    {failure : Failure} (evaluator : Evaluator) (collector : Option String)
    (brought : (fetch engine).1.rules = .error failure) :
    (new evaluator collector).initializeByFetch engine fetch =
      (.error failure, new evaluator collector,
        (fetch engine).2.tell collector (.loadFailed failure)) :=
  finish_of_error brought { new evaluator collector with turn := some 0 } (fetch engine).2

end Client

namespace Engine

theorem collectorFor_proceeds {engine : Engine} {settings : Settings} {given : Option String}
    {registry : String} {chosen : Option String × Engine}
    (made : engine.collectorFor settings given registry = .ok chosen) :
    engine.Proceeds chosen.2 [] := by
  cases given with
  | some collector =>
      obtain rfl := Except.ok.inj made
      exact .refl engine
  | none =>
      simp only [collectorFor] at made
      split at made
      · cases registered : engine.register registry settings.service with
        | error fault => simp [registered, Failure.lift, bind, Except.bind] at made
        | ok next =>
            simp [registered, Failure.lift, bind, Except.bind, pure, Except.pure] at made
            subst made
            exact register_proceeds registered
      · obtain rfl := Except.ok.inj made
        exact .refl engine

theorem openClient_proceeds {fetch : RuleSource → Engine → Fetched × Engine}
    (fetches : ∀ source (engine : Engine), engine.Proceeds (fetch source engine).2 [])
    (engine : Engine) (settings : Settings) (collector : Option String) :
    engine.Proceeds (engine.openClient settings collector fetch).2 [] := by
  rw [openClient]
  cases settings.source with
  | error failure => exact .refl engine
  | ok source =>
      have opened := Client.initializeByFetch_proceeds (fetches source)
        (.new .standard collector) engine
      cases came : (Client.new .standard collector).initializeByFetch engine (fetch source) with
      | mk result rest =>
        obtain ⟨client, next⟩ := rest
        rw [came] at opened
        cases result with
        | ok number => simpa only [came] using opened
        | error failure => simpa only [came] using opened

theorem attempt_proceeds (engine : Engine) (registry : String) (attempt : Attempt) :
    engine.Proceeds (engine.attempt registry attempt).2 [] := by
  have logged := engine.configureLogging_proceeds attempt.settings.service
    (.text attempt.settings.logLevel)
  rw [Engine.attempt, startClient]
  cases set : engine.configureLogging attempt.settings.service
      (.text attempt.settings.logLevel) with
  | mk result next =>
    rw [set] at logged
    cases result with
    | error failure => exact logged
    | ok _ =>
      cases chosen : next.collectorFor attempt.settings attempt.given registry with
      | error failure => simpa only [chosen] using logged
      | ok chosen' =>
        simp only [chosen]
        exact (logged.silent (collectorFor_proceeds chosen)).silent
          (openClient_proceeds (fun source engine => source.fetch_proceeds _ engine) ..)

end Engine

end AccessRules
