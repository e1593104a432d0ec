import AccessRules.Proofs.Engine.Progress

/-!
# Loads and the resolvers that they build

An engine counts the loads that came to an end, and shows the number of rules that the latest one
brought. `Metrics.Tracks` says that these readings moved by some loads and by nothing else, and
`Engine.Advances` says so of a stretch of an engine, together with the resolvers that it built.
Every function that takes an engine and gives the next one has one lemma here, up to the start of a
client (`attempt_advances`).

A resolver may be built by a load or from rules in memory. **`Load.Bring`** is what tells the one
from the other: the loads of the stretch brought the rules of the resolvers that it built.
-/

namespace AccessRules

/-- A load that came to an end: the registry that it is counted in, if any, and what it brought. -/
structure Load where
  collector : Option String
  /-- How many rules; none at all when the load failed. -/
  rules : Option Nat
  deriving DecidableEq, Repr

namespace Load

/-- The load that ended with the rules, or with its failure. -/
def of (collector : Option String) (loaded : Except Failure (List Rule)) : Load :=
  ⟨collector, loaded.toOption.map List.length⟩

/-- The loads that are counted in a registry. -/
def countedIn (registry : String) (loads : List Load) : List Load :=
  loads.filter fun load => load.collector = some registry

/-- How many rules the latest load brought that did not fail. -/
def latest? (loads : List Load) : Option Nat := (loads.filterMap rules).getLast?

/-- How many rules a load brought, and the registry that this is shown in. -/
def brought? (load : Load) : Option (Option String × Nat) := load.rules.map (load.collector, ·)

@[simp] theorem countedIn_append (registry : String) (earlier later : List Load) :
    countedIn registry (earlier ++ later) =
      countedIn registry earlier ++ countedIn registry later :=
  List.filter_append ..

theorem latest?_append (earlier later : List Load) :
    latest? (earlier ++ later) = (latest? later).or (latest? earlier) := by
  rw [latest?, List.filterMap_append, List.getLast?_append]
  rfl

/-- The latest load of a registry, by what the loads brought. -/
theorem latest?_countedIn (registry : String) (loads : List Load) :
    latest? (countedIn registry loads) =
      (((loads.filterMap brought?).filter fun entry => entry.1 = some registry).map
        Prod.snd).getLast? := by
  rw [latest?]
  congr 1
  induction loads with
  | nil => rfl
  | cons load rest ih =>
      obtain ⟨collector, brought⟩ := load
      simp only [countedIn] at ih ⊢
      by_cases counted : collector = some registry <;> cases brought <;>
        simp [List.filterMap_cons, brought?, counted, ih]

end Load

/-! ### Readings -/

/-- The readings about loads moved by the loads, and by nothing else. -/
structure Metrics.Tracks (before after : Metrics) (loads : List Load) : Prop where
  successes : after.loads.count "success" =
    before.loads.count "success" + loads.countP fun load => load.rules.isSome
  failures : after.loads.count "failure" =
    before.loads.count "failure" + loads.countP fun load => load.rules.isNone
  /-- The gauge shows the latest load that brought rules. -/
  gauge : after.rulesLoaded = ((Load.latest? loads).map Int.ofNat).getD before.rulesLoaded

namespace Metrics

variable {before between after : Metrics} {earlier later : List Load}

theorem Tracks.refl (metrics : Metrics) : metrics.Tracks metrics [] where
  successes := rfl
  failures := rfl
  gauge := rfl

theorem Tracks.trans (first : before.Tracks between earlier)
    (second : between.Tracks after later) : before.Tracks after (earlier ++ later) where
  successes := by rw [second.successes, first.successes, List.countP_append, Nat.add_assoc]
  failures := by rw [second.failures, first.failures, List.countP_append, Nat.add_assoc]
  gauge := by
    rw [second.gauge, first.gauge, Load.latest?_append]
    cases Load.latest? later <;> rfl

/-- Every load is counted, either as one that succeeded or as one that failed. -/
theorem Tracks.total {loads : List Load}
    (tracks : before.Tracks after loads) :
    after.loads.count "success" + after.loads.count "failure" =
      before.loads.count "success" + before.loads.count "failure" + loads.length := by
  have apart (load : Load) : load.rules.isNone = decide (¬ load.rules.isSome = true) := by
    cases load.rules <;> rfl
  have all := List.length_eq_countP_add_countP (fun load : Load => load.rules.isSome) (l := loads)
  rw [tracks.successes, tracks.failures, all]
  simp only [apart]
  omega

end Metrics

/-- The notice is of a load that came to an end. -/
def Notice.IsLoad : Notice → Prop
  | .loadFailed .. | .rulesLoaded .. => True
  | _ => False

/-- The notice that is told of a load. -/
def Notice.ofLoad : Except Failure (List Rule) → Notice
  | .error failure => .loadFailed failure
  | .ok rules => .rulesLoaded rules.length

/-- Notices about anything else leave these readings as they are. -/
theorem Metrics.Tracks.of_unloaded {notice : Notice} (unloaded : ¬ notice.IsLoad)
    (metrics : Metrics) : metrics.Tracks (metrics.observe notice) [] := by
  cases notice with
  | loadFailed => exact absurd trivial unloaded
  | rulesLoaded => exact absurd trivial unloaded
  | _ => exact ⟨rfl, rfl, rfl⟩

/-- The notice of a load accounts for that load. -/
theorem Metrics.tracks_ofLoad (metrics : Metrics) (collector : Option String)
    (loaded : Except Failure (List Rule)) :
    metrics.Tracks (metrics.observe (.ofLoad loaded)) [.of collector loaded] := by
  cases loaded with
  | error failure =>
      refine ⟨?_, ?_, rfl⟩ <;>
        simp [Notice.ofLoad, observe, recordLoad, Tally.count_bump, Load.of, Except.toOption]
  | ok rules =>
      refine ⟨?_, ?_, rfl⟩ <;>
        simp [Notice.ofLoad, observe, recordLoad, Tally.count_bump, Load.of, Except.toOption]

theorem Metrics.tracks_foldl_of_unloaded {notices : List Notice}
    (unloaded : ∀ notice ∈ notices, ¬ notice.IsLoad) (metrics : Metrics) :
    metrics.Tracks (notices.foldl Metrics.observe metrics) [] := by
  induction notices generalizing metrics with
  | nil => exact .refl metrics
  | cons notice rest ih =>
      exact (Tracks.of_unloaded (unloaded notice List.mem_cons_self) metrics).trans
        (ih (fun other among => unloaded other (List.mem_cons_of_mem _ among)) _)

/-- A decision tells of no load. -/
theorem Resolver.noticesOf_unloaded (resolver : Resolver) (subject : Subject)
    (resource : Resource) (action : Document) (verdict : Verdict) :
    ∀ notice ∈ resolver.noticesOf subject resource action verdict, ¬ notice.IsLoad := by
  intro notice among
  rw [noticesOf] at among
  obtain failed | decided := List.mem_append.1 among
  · obtain ⟨report, -, rfl⟩ := List.mem_map.1 failed
    exact id
  · obtain rfl := List.mem_singleton.1 decided
    exact id

/-! ### Stretches -/

/-- What a resolver was built with: the registry that it counts in, if any, and how many rules. -/
def Service.holding (service : Service) : Option String × Nat :=
  (service.collector, service.resolver.store.rules.length)

/-- The loads brought the rules of the resolvers that were built, one by one. -/
def Load.Bring (loads : List Load) (built : List Service) : Prop :=
  loads.filterMap Load.brought? = built.map Service.holding

namespace Engine

/-- The engine built some resolvers, and counted some loads. -/
structure Advances (before after : Engine) (loads : List Load) (built : List Service) : Prop where
  services : after.services = before.services ++ built
  tracks : ∀ registry metrics, before.metrics? registry = some metrics →
    ∃ next, after.metrics? registry = some next ∧
      metrics.Tracks next (Load.countedIn registry loads)

variable {engine before between after : Engine} {loads earlier later : List Load}
  {built first second : List Service}

theorem Advances.of_eq (services : after.services = before.services)
    (metrics : ∀ registry, after.metrics? registry = before.metrics? registry) :
    before.Advances after [] [] where
  services := by rw [services, List.append_nil]
  tracks registry metrics' found := ⟨metrics', by rw [metrics, found], .refl metrics'⟩

theorem Advances.refl (engine : Engine) : engine.Advances engine [] [] := .of_eq rfl fun _ => rfl

theorem Advances.trans (one : before.Advances between earlier first)
    (other : between.Advances after later second) :
    before.Advances after (earlier ++ later) (first ++ second) where
  services := by rw [other.services, one.services, List.append_assoc]
  tracks registry metrics found := by
    obtain ⟨next, found', tracks⟩ := one.tracks registry metrics found
    obtain ⟨last, found'', tracks'⟩ := other.tracks registry next found'
    exact ⟨last, found'', Load.countedIn_append registry earlier later ▸ tracks.trans tracks'⟩

/-- A stretch that neither loads nor builds may come before any other. -/
theorem Advances.after_still (one : before.Advances between [] [])
    (other : between.Advances after loads built) : before.Advances after loads built :=
  one.trans other

/-- It may come behind any other as well. -/
theorem Advances.then_still (one : before.Advances between loads built)
    (other : between.Advances after [] []) : before.Advances after loads built := by
  simpa using one.trans other

/-! ### Telling and deciding -/

theorem tellAll_advances {notices : List Notice}
    (unloaded : ∀ notice ∈ notices, ¬ notice.IsLoad) (engine : Engine)
    (collector : Option String) : engine.Advances (engine.tellAll collector notices) [] [] where
  services := by rw [tellAll_services, List.append_nil]
  tracks registry metrics found := by
    rw [metrics?_tellAll, found]
    split
    · exact ⟨_, rfl, Metrics.tracks_foldl_of_unloaded unloaded metrics⟩
    · exact ⟨metrics, rfl, .refl metrics⟩

/-- What is told without a collector is not counted. -/
theorem tellAll_none_advances (engine : Engine) (notices : List Notice) :
    engine.Advances (engine.tellAll none notices) [] [] :=
  .of_eq (tellAll_services ..) fun registry => by simp [metrics?_tellAll]

theorem tell_none_advances (engine : Engine) (notice : Notice) :
    engine.Advances (engine.tell none notice) [] [] :=
  engine.tellAll_none_advances [notice]

theorem decide_advances (engine : Engine) (service : Service) (subject : Subject)
    (resource : Resource) (action : Document) :
    engine.Advances (engine.decide service subject resource action).2 [] [] :=
  tellAll_advances (service.resolver.noticesOf_unloaded subject resource action _) engine
    service.collector

theorem grantedAmong_advances (engine : Engine) (service : Service) (subject : Subject)
    (resource : Resource) (actions : List String) :
    engine.Advances (engine.grantedAmong service subject resource actions).2 [] [] := by
  induction actions generalizing engine with
  | nil => exact .refl engine
  | cons action rest ih =>
      exact (engine.decide_advances service subject resource (.text action)).after_still (ih _)

/-! ### Building resolvers -/

theorem newResolver_advances {evaluator : Evaluator} {collector : Option String}
    {inputs : List RuleInput} {made : Nat × Engine}
    (resolved : engine.newResolver evaluator collector inputs = .ok made) :
    ∃ rules, Describe inputs rules ∧
      engine.Advances made.2 [] [engine.built rules evaluator collector] := by
  obtain ⟨rules, describe⟩ | ⟨index, failure, refused⟩ := describe_or_refused inputs
  · rw [newResolver_of_describe describe] at resolved
    obtain rfl := Except.ok.inj resolved
    exact ⟨rules, describe, rfl, fun registry metrics found => ⟨metrics, found, .refl metrics⟩⟩
  · rw [newResolver_of_error (Store.rulesOf_of_refused refused)] at resolved
    cases resolved

/-- The resolvers that a load builds: one when it brought rules. -/
def builtBy (engine : Engine) (evaluator : Evaluator) (collector : Option String) :
    Except Failure (List Rule) → List Service
  | .error _ => []
  | .ok rules => [engine.built rules evaluator collector]

/-- A load builds a resolver over what it brings. -/
theorem bring_builtBy (engine : Engine) (evaluator : Evaluator) (collector : Option String)
    (loaded : Except Failure (List Rule)) :
    Load.Bring [.of collector loaded] (engine.builtBy evaluator collector loaded) := by
  cases loaded <;> rfl

/-- The notice of a load is counted as that load. -/
theorem tell_load_advances (engine : Engine) (collector : Option String)
    (loaded : Except Failure (List Rule)) :
    engine.Advances (engine.tell collector (.ofLoad loaded)) [.of collector loaded] [] where
  services := by rw [tell_services, List.append_nil]
  tracks registry metrics found := by
    rw [metrics?_tell, found]
    by_cases counted : collector = some registry
    · have mine : Load.countedIn registry [.of collector loaded] = [.of collector loaded] := by
        simp [Load.countedIn, Load.of, counted]
      rw [if_pos counted, mine]
      exact ⟨_, rfl, metrics.tracks_ofLoad collector loaded⟩
    · have none : Load.countedIn registry [.of collector loaded] = [] := by
        simp [Load.countedIn, Load.of, counted]
      rw [if_neg counted, none]
      exact ⟨metrics, rfl, .refl metrics⟩

theorem finishLoad_advances (engine : Engine) (evaluator : Evaluator) (collector : Option String)
    (loaded : Except Failure (List Rule)) :
    engine.Advances (engine.finishLoad evaluator collector loaded).2 [.of collector loaded]
      (engine.builtBy evaluator collector loaded) := by
  have told := engine.tell_load_advances collector loaded
  cases loaded with
  | error failure => exact told
  | ok rules =>
      rw [finishLoad, newResolver_of_describe (describe_map_rule rules)]
      refine ⟨?_, told.tracks⟩
      simp only [tell_services, tell_stores]
      rfl

theorem register_advances {registry service : String} {next : Engine}
    (registered : engine.register registry service = .ok next) :
    engine.Advances next [] [] := by
  rw [register] at registered
  cases taken : engine.metrics? registry with
  | some metrics =>
      rw [taken] at registered
      cases registered
  | none =>
      rw [taken] at registered
      obtain rfl := Except.ok.inj registered
      -- The new entry stands behind the others, where it hides none of them.
      refine ⟨(List.append_nil _).symm, fun asked metrics found => ⟨metrics, ?_, .refl metrics⟩⟩
      rw [metrics?] at found ⊢
      rw [List.lookup_append, found, Option.some_or]

theorem configureLogging_advances (engine : Engine) (service : String) (level : Document) :
    engine.Advances (engine.configureLogging service level).2 [] [] := by
  have set (logging : Logging) : engine.Advances { engine with logging := logging } [] [] :=
    .of_eq rfl fun _ => rfl
  rw [configureLogging]
  split
  · exact (set _).after_still (tell_none_advances _ _)
  · exact set _

end Engine

/-! ### Fetching and clients -/

theorem Fetch.run_advances (fetch : Fetch) (engine : Engine) :
    engine.Advances (fetch.run engine).2 [] [] :=
  engine.tellAll_none_advances fetch.told

theorem RuleSource.fetch_advances (source : RuleSource) (providers : Providers)
    (engine : Engine) : engine.Advances (source.fetch providers engine).2 [] [] := by
  obtain ⟨fetch, same⟩ := source.exists_fetch providers
  rw [same]
  exact fetch.run_advances engine

namespace Client

theorem finish_advances (client : Client) (engine : Engine) (fetched : Fetched) :
    engine.Advances (client.finish engine fetched).2.2 [.of client.collector fetched.rules]
      (engine.builtBy client.evaluator client.collector fetched.rules) := by
  have loaded := engine.finishLoad_advances client.evaluator client.collector fetched.rules
  rw [finish, Engine.loadFromFetch]
  cases came : engine.finishLoad client.evaluator client.collector fetched.rules with
  | mk result next =>
    rw [came] at loaded
    cases result with
    | ok number => exact loaded.then_still (Engine.tell_none_advances _ _)
    | error failure => exact loaded

/-- An initialization that fetches loads once; one that is refused does nothing. -/
theorem initializeByFetch_advances {fetch : Engine → Fetched × Engine}
    (fetches : ∀ engine : Engine, engine.Advances (fetch engine).2 [] []) (client : Client)
    (engine : Engine) :
    ∃ loads built, Load.Bring loads built ∧
      engine.Advances (client.initializeByFetch engine fetch).2.2 loads built := by
  rw [initializeByFetch]
  split
  · exact ⟨_, _, Engine.bring_builtBy .., (fetches engine).after_still (finish_advances ..)⟩
  · exact ⟨[], [], rfl, .refl engine⟩
  · exact ⟨[], [], rfl, .refl engine⟩

/-- Rules in memory build a resolver without a load. -/
theorem initializeFromRules_advances (client : Client) (engine : Engine)
    (inputs : List RuleInput) :
    ∃ built, engine.Advances (client.initializeFromRules engine inputs).2.2 [] built := by
  rw [initializeFromRules]
  split
  · exact ⟨[], .refl engine⟩
  · cases made : engine.newResolver client.evaluator client.collector inputs with
    | error failure => exact ⟨[], .refl engine⟩
    | ok resolved =>
        obtain ⟨rules, -, advances⟩ := Engine.newResolver_advances made
        exact ⟨_, advances.then_still (Engine.tell_none_advances _ _)⟩

end Client

namespace Engine

theorem collectorFor_advances {engine : Engine} {settings : Settings} {given : Option String}
    {registry : String} {chosen : Option String × Engine}
    (made : engine.collectorFor settings given registry = .ok chosen) :
    engine.Advances chosen.2 [] [] := by
  cases given with
  | some collector =>
      obtain rfl := Except.ok.inj made
      exact .refl engine
  | none =>
      simp only [collectorFor] at made
      split at made
      · cases registered : engine.register registry settings.service with
        | error fault => simp [registered, Failure.lift, bind, Except.bind] at made
        | ok next =>
            simp [registered, Failure.lift, bind, Except.bind, pure, Except.pure] at made
            subst made
            exact register_advances registered
      · obtain rfl := Except.ok.inj made
        exact .refl engine

theorem openClient_advances {fetch : RuleSource → Engine → Fetched × Engine}
    (fetches : ∀ source (engine : Engine), engine.Advances (fetch source engine).2 [] [])
    (engine : Engine) (settings : Settings) (collector : Option String) :
    ∃ loads built, Load.Bring loads built ∧
      engine.Advances (engine.openClient settings collector fetch).2 loads built := by
  rw [openClient]
  cases settings.source with
  | error failure => exact ⟨[], [], rfl, .refl engine⟩
  | ok source =>
      obtain ⟨loads, built, bring, opened⟩ := Client.initializeByFetch_advances (fetches source)
        (.new .standard collector) engine
      refine ⟨loads, built, bring, ?_⟩
      cases came : (Client.new .standard collector).initializeByFetch engine (fetch source) with
      | mk result rest =>
        obtain ⟨client, next⟩ := rest
        rw [came] at opened
        cases result with
        | ok number => simpa only [came] using opened
        | error failure => simpa only [came] using opened

theorem attempt_advances (engine : Engine) (registry : String) (attempt : Attempt) :
    ∃ loads built, Load.Bring loads built ∧
      engine.Advances (engine.attempt registry attempt).2 loads built := by
  have logged := engine.configureLogging_advances attempt.settings.service
    (.text attempt.settings.logLevel)
  rw [Engine.attempt, startClient]
  cases set : engine.configureLogging attempt.settings.service
      (.text attempt.settings.logLevel) with
  | mk result next =>
    rw [set] at logged
    cases result with
    | error failure => exact ⟨[], [], rfl, logged⟩
    | ok _ =>
      cases chosen : next.collectorFor attempt.settings attempt.given registry with
      | error failure => exact ⟨[], [], rfl, by simpa only [chosen] using logged⟩
      | ok chosen' =>
        obtain ⟨loads, built, bring, opened⟩ := openClient_advances
          (fun source engine => source.fetch_advances attempt.providers engine) chosen'.2
          attempt.settings chosen'.1
        refine ⟨loads, built, bring, ?_⟩
        simp only [chosen]
        exact (logged.after_still (collectorFor_advances chosen)).after_still opened

end Engine

end AccessRules
