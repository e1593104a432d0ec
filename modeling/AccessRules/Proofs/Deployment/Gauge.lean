import AccessRules.Proofs.Deployment.Counters
import AccessRules.Proofs.Engine.Loads

/-!
# The gauge of loaded rules

A registry has a gauge for how many rules the most recently built resolver was built with. Beside a
run, a list of its builds is kept, whether or not the gauge shows them: an operation enters the
resolvers that stand behind the others afterwards, and where their rules came from.
**`gauge_iff_loaded`** says what the gauge shows after any run, which is the latest resolver whose
rules were *loaded*, and when this is the latest resolver.

The step is `perform_gauge`: loads move the gauge to what they brought, and nothing else moves it.
-/

namespace AccessRules

/-- A resolver that was built. -/
structure Build where
  /-- The registry that it counts in, if any. -/
  collector : Option String
  /-- With how many rules it was built. -/
  rules : Nat
  /-- Were the rules loaded? Otherwise they were in memory. -/
  loaded : Bool
  deriving DecidableEq, Repr

namespace Build

/-- The build of a resolver. -/
def of (loaded : Bool) (service : Service) : Build :=
  ⟨service.collector, service.resolver.store.rules.length, loaded⟩

/-- The builds of the resolvers that count in a registry. -/
def sharing (registry : String) (builds : List Build) : List Build :=
  builds.filter fun build => build.collector = some registry

/-- The builds from loaded rules. -/
def fromLoads (builds : List Build) : List Build := builds.filter loaded

/-- With how many rules the latest resolver was built; zero when there is none. -/
def latest (builds : List Build) : Nat := (builds.getLast?.map rules).getD 0

@[simp] theorem sharing_append (registry : String) (earlier later : List Build) :
    sharing registry (earlier ++ later) = sharing registry earlier ++ sharing registry later :=
  List.filter_append ..

@[simp] theorem fromLoads_append (earlier later : List Build) :
    fromLoads (earlier ++ later) = fromLoads earlier ++ fromLoads later :=
  List.filter_append ..

/-- The latest build from loaded rules is the latest build when that is from loaded rules. -/
theorem latest_fromLoads_iff (builds : List Build) :
    latest (fromLoads builds) = latest builds ↔
      ∀ build ∈ builds.getLast?, build.loaded ∨ build.rules = latest (fromLoads builds) := by
  obtain rfl | ⟨earlier, build, rfl⟩ := List.eq_nil_or_concat' builds
  · simp [latest, fromLoads]
  · by_cases loaded : build.loaded
    · simp [latest, fromLoads, loaded]
    · have same : fromLoads (earlier ++ [build]) = fromLoads earlier := by
        simp [fromLoads, loaded]
      rw [same]
      simpa [latest, loaded] using eq_comm

end Build

namespace Deployment

/-- Does the operation build resolvers from rules in memory? All others load rules first. -/
def Operation.isInMemory : Operation → Bool
  | .newResolver .. | .client _ (.initializeFromRules _) => true
  | _ => false

/-- The resolvers that an operation builds: those that stand behind the others afterwards. -/
def built (deployment : Deployment) (operation : Operation) : List Service :=
  (deployment.perform operation).2.engine.services.drop deployment.engine.services.length

/-- All builds of a run, in order. -/
def builds (deployment : Deployment) : List Operation → List Build
  | [] => []
  | operation :: rest =>
      (deployment.built operation).map (Build.of !operation.isInMemory) ++
        builds (deployment.perform operation).2 rest

variable {deployment : Deployment} {operation : Operation} {number : Nat}

/-! ### What an operation builds and loads -/

theorem put_advances (deployment : Deployment) (service : Service) (question : Question) :
    deployment.engine.Advances (deployment.put service question).2.engine [] [] := by
  cases question with
  | can subject resource action => exact deployment.engine.decide_advances ..
  | decide subject resource action => exact deployment.engine.decide_advances ..
  | list subject resource => exact deployment.engine.grantedAmong_advances ..

theorem putTo_advances (deployment : Deployment) (number : Nat) (question : Question) :
    deployment.engine.Advances (deployment.putTo number question).2.engine [] [] := by
  rw [putTo]
  split
  · exact deployment.put_advances _ question
  · exact .refl deployment.engine

theorem delegate_advances (deployment : Deployment) (client : Client) (question : Question) :
    deployment.engine.Advances (deployment.delegate client question).2.engine [] [] := by
  rw [delegate]
  split
  · exact deployment.putTo_advances _ question
  · exact .refl deployment.engine

theorem initializeFromGiven_advances (deployment : Deployment) (client : Client) (given : Given) :
    ∃ built, deployment.engine.Advances (deployment.initializeFromGiven client given).2.2 []
      built := by
  cases given with
  | ok inputs => exact client.initializeFromRules_advances deployment.engine inputs
  | error failure => exact ⟨[], .refl deployment.engine⟩

/-- A rule that is added builds nothing: the resolvers are as many as before. -/
theorem perform_addRule_still (deployment : Deployment) (number : Nat) (input : RuleInput) :
    deployment.built (.addRule number input) = [] ∧ ∀ registry,
      (deployment.perform (.addRule number input)).2.engine.metrics? registry =
        deployment.engine.metrics? registry := by
  rw [built]
  obtain ⟨service, rule, next, -, made, added, performed⟩ | ⟨-, kept⟩ :=
    deployment.perform_addRule_cases number input
  · rw [performed]
    rw [Engine.addRule_of_made made] at added
    obtain ⟨-, rfl⟩ := Prod.mk.inj (Except.ok.inj added)
    refine ⟨?_, fun registry => by rw [Engine.metrics?_tell]; rfl⟩
    rw [Engine.tell_services]
    simp [Engine.setResolver]
  · rw [kept]
    exact ⟨List.drop_length, fun _ => rfl⟩

/-- An operation on rules in memory builds without a load; any other builds from what it loads. -/
def BuildsByKind (deployment : Deployment) (operation : Operation) : Prop :=
  ∃ loads built,
    deployment.engine.Advances (deployment.perform operation).2.engine loads built ∧
      if operation.isInMemory then loads = [] else Load.Bring loads built

/-- An operation that neither loads nor builds is of either kind. -/
theorem BuildsByKind.of_still
    (still : deployment.engine.Advances (deployment.perform operation).2.engine [] []) :
    deployment.BuildsByKind operation := by
  refine ⟨[], [], still, ?_⟩
  split <;> rfl

theorem newResolver_buildsByKind (deployment : Deployment) (evaluator : Evaluator)
    (collector : Option String) (given : Given) :
    deployment.BuildsByKind (.newResolver evaluator collector given) := by
  cases given with
  | error failure => exact .of_still (.refl deployment.engine)
  | ok inputs =>
      cases made : deployment.engine.newResolver evaluator collector inputs with
      | error failure =>
          refine .of_still ?_
          simpa only [perform, made, bind, Except.bind] using .refl deployment.engine
      | ok resolved =>
          obtain ⟨rules, -, advances⟩ := Engine.newResolver_advances made
          exact ⟨[], _, by simpa only [perform, made, bind, Except.bind] using advances, rfl⟩

theorem start_buildsByKind (deployment : Deployment) (registry : String) (attempt : Attempt) :
    deployment.BuildsByKind (.start registry attempt) := by
  obtain ⟨loads, built, bring, started⟩ := deployment.engine.attempt_advances registry attempt
  refine ⟨loads, built, ?_, bring⟩
  cases came : deployment.engine.attempt registry attempt with
  | mk result next =>
    rw [came] at started
    cases result with
    | ok client => simpa only [perform, came, addClient] using started
    | error failure => simpa only [perform, came] using started

theorem client_buildsByKind (deployment : Deployment) (number : Nat) (use : Client.Operation) :
    deployment.BuildsByKind (.client number use) := by
  cases found : deployment.clients[number]? with
  | none =>
      refine .of_still ?_
      simpa only [perform, found] using .refl deployment.engine
  | some client =>
      rw [BuildsByKind]
      simp only [perform, found]
      cases use with
      | initializeByFetch fetch =>
          obtain ⟨loads, built, bring, advances⟩ :=
            client.initializeByFetch_advances fetch.run_advances deployment.engine
          exact ⟨loads, built, advances, bring⟩
      | initializeFromRules given =>
          obtain ⟨built, advances⟩ := deployment.initializeFromGiven_advances client given
          exact ⟨[], built, advances, rfl⟩
      | isInitialized => exact ⟨[], [], .refl deployment.engine, rfl⟩
      | getResolver => exact ⟨[], [], .refl deployment.engine, rfl⟩
      | can subject resource action => exact ⟨[], [], deployment.delegate_advances client _, rfl⟩
      | list subject resource => exact ⟨[], [], deployment.delegate_advances client _, rfl⟩

/-- Only the adding of a rule is left out: it changes a resolver. -/
theorem perform_buildsByKind (deployment : Deployment)
    (stays : ∀ number input, operation ≠ .addRule number input) :
    deployment.BuildsByKind operation := by
  cases operation with
  | newResolver evaluator collector given =>
      exact deployment.newResolver_buildsByKind evaluator collector given
  | loadFromSource evaluator collector delivered =>
      exact ⟨_, _, deployment.engine.finishLoad_advances .., Engine.bring_builtBy ..⟩
  | loadFromFetch evaluator collector fetched =>
      exact ⟨_, _, deployment.engine.finishLoad_advances .., Engine.bring_builtBy ..⟩
  | newClient evaluator collector => exact .of_still (.refl deployment.engine)
  | start registry attempt => exact deployment.start_buildsByKind registry attempt
  | client number use => exact deployment.client_buildsByKind number use
  | addRule number input => exact absurd rfl (stays number input)
  | rules number =>
      refine .of_still ?_
      simpa only [perform_rules] using .refl deployment.engine
  | ask number question => exact .of_still (deployment.putTo_advances number question)

/-! ### The gauge -/

theorem built_of_advances {loads : List Load} {built : List Service}
    (advances : deployment.engine.Advances (deployment.perform operation).2.engine loads built) :
    deployment.built operation = built := by
  rw [Deployment.built, advances.services, List.drop_left]

/-- What loads brought is what the resolvers were built with that they built. -/
theorem latest?_of_bring {loads : List Load} {built : List Service} (bring : Load.Bring loads built)
    (registry : String) :
    Load.latest? (Load.countedIn registry loads) =
      (Build.fromLoads (Build.sharing registry (built.map (Build.of true)))).getLast?.map
        Build.rules := by
  have all : Build.fromLoads (Build.sharing registry (built.map (Build.of true))) =
      Build.sharing registry (built.map (Build.of true)) := by
    refine List.filter_eq_self.2 fun build among => ?_
    obtain ⟨service, -, rfl⟩ := List.mem_map.1 (List.mem_of_mem_filter among)
    rfl
  rw [Load.latest?_countedIn, bring, ← List.getLast?_map, all, Build.sharing, List.filter_map,
    List.filter_map, List.map_map, List.map_map]
  rfl

/-- Loads move the gauge of a registry to what they brought; nothing else moves it. -/
theorem perform_gauge (deployment : Deployment) (operation : Operation) {registry : String}
    {metrics : Metrics} (found : deployment.engine.metrics? registry = some metrics) :
    ∃ next, (deployment.perform operation).2.engine.metrics? registry = some next ∧
      next.rulesLoaded = (((Build.fromLoads (Build.sharing registry
        ((deployment.built operation).map (Build.of !operation.isInMemory)))).getLast?.map
          Build.rules).map Int.ofNat).getD metrics.rulesLoaded := by
  obtain ⟨number, input, rfl⟩ | stays := operation.adds_or_stays
  · obtain ⟨none, same⟩ := deployment.perform_addRule_still number input
    rw [none, same]
    exact ⟨metrics, found, rfl⟩
  · obtain ⟨loads, built, advances, kind⟩ := deployment.perform_buildsByKind stays
    obtain ⟨next, found', tracks⟩ := advances.tracks registry metrics found
    refine ⟨next, found', tracks.gauge.trans ?_⟩
    rw [built_of_advances advances]
    cases memory : operation.isInMemory with
    | true =>
        obtain rfl : loads = [] := by simpa [memory] using kind
        have unloaded : Build.fromLoads (Build.sharing registry
            (built.map (Build.of !true))) = [] := by
          simp [Build.fromLoads, Build.sharing, Build.of]
        rw [unloaded]
        rfl
    | false =>
        have bring : Load.Bring loads built := by simpa [memory] using kind
        rw [latest?_of_bring bring]
        rfl

/-- The gauge after a run, by the builds of the run. -/
theorem after_gauge (deployment : Deployment) (operations : List Operation) {registry : String}
    {metrics : Metrics} (found : deployment.engine.metrics? registry = some metrics) :
    ∃ next, (deployment.after operations).engine.metrics? registry = some next ∧
      next.rulesLoaded = (((Build.fromLoads (Build.sharing registry
        (deployment.builds operations))).getLast?.map Build.rules).map Int.ofNat).getD
          metrics.rulesLoaded := by
  induction operations generalizing deployment metrics with
  | nil => exact ⟨metrics, found, rfl⟩
  | cons operation rest ih =>
      obtain ⟨between, found', gauge⟩ := deployment.perform_gauge operation found
      obtain ⟨next, found'', gauge'⟩ := ih (deployment.perform operation).2 found'
      refine ⟨next, found'', ?_⟩
      rw [gauge', gauge, builds, Build.sharing_append, Build.fromLoads_append,
        List.getLast?_append]
      cases (Build.fromLoads (Build.sharing registry
        ((deployment.perform operation).2.builds rest))).getLast? <;> rfl

/-- After any run, the gauge of a registry shows with how many rules the latest resolver was built
from loaded rules. **This is what the latest resolver was built with exactly when** that one was
built from loaded rules too, or with as many. -/
theorem gauge_iff_loaded (registry service : String) (operations : List Operation) :
    let builds := Build.sharing registry ((opening registry service).builds operations)
    ∃ metrics,
      ((opening registry service).after operations).engine.metrics? registry = some metrics ∧
      metrics.rulesLoaded = Build.latest (Build.fromLoads builds) ∧
      (metrics.rulesLoaded = Build.latest builds ↔ ∀ build ∈ builds.getLast?,
        build.loaded ∨ build.rules = Build.latest (Build.fromLoads builds)) := by
  intro builds
  have begun : (opening registry service).engine.metrics? registry =
      some (.ofService service) := by
    simp [opening, Engine.metrics?]
  obtain ⟨metrics, found, gauge⟩ := (opening registry service).after_gauge operations begun
  have shown : metrics.rulesLoaded = Build.latest (Build.fromLoads builds) := by
    rw [gauge, Build.latest]
    cases (Build.fromLoads builds).getLast? <;> rfl
  refine ⟨metrics, found, shown, ?_⟩
  rw [shown, Int.ofNat_inj]
  exact Build.latest_fromLoads_iff builds

/-- A client is initialized from one rule in memory, and the gauge goes on showing none. -/
theorem gauge_misses_memory :
    let operations : List Operation := [.newClient .standard (some "main"),
      .client 0 (.initializeFromRules (.ok [.rule ⟨"document", "read", none, none, nofun⟩]))]
    let builds := Build.sharing "main" ((opening "main" "permissions").builds operations)
    ∃ metrics,
      ((opening "main" "permissions").after operations).engine.metrics? "main" = some metrics ∧
      builds = [⟨some "main", 1, false⟩] ∧ metrics.rulesLoaded = 0 ∧
      metrics.rulesLoaded ≠ Build.latest builds :=
  ⟨_, rfl, rfl, rfl, by decide⟩

end Deployment

end AccessRules
