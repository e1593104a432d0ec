import AccessRules.Proofs.Engine.Progress

/-!
# Starting again

A start takes its steps one after another, and what was done before a step that fails stays done.
Of what another start can notice, that is the collector alone: it is registered after the log is
set up and before the source is chosen and asked. So a start that fails leaves the collectors as
they were, and with them the one that it registered itself (`attempt_of_error`).

**`attempt_after_failures`** draws the consequence for a run of starts that fail, and a last one
that is good: the last one succeeds as if it had been the first, unless it has to register a
collector and one of the others left one in the registry, which takes one collector only.
-/

namespace AccessRules

/-! ### What an attempt asks for -/

namespace Attempt

/-- Does the attempt count events, with no collector given? -/
def needsCollector (attempt : Attempt) : Bool :=
  attempt.given.isNone && attempt.settings.countsEvents

/-- The registry that the client will count in. -/
def collector (attempt : Attempt) (registry : String) : Option String :=
  if attempt.needsCollector then some registry else attempt.given

/-- The rules that the source of the attempt brings, or why there are none. -/
def brought (attempt : Attempt) : Except Failure (List Rule) := do
  let source ← attempt.settings.source
  (source.fetch attempt.providers .initial).1.rules

end Attempt

/-- Does the log take the level? -/
def Logging.accepts (logging : Logging) (level : Document) : Bool :=
  (logging.configure level).1.isOk

theorem Logging.accepts_iff {logging : Logging} {level : Document} :
    logging.accepts level = true ↔ ∃ name, level.text? = some name ∧
      ((∃ parsed, Log.Level.ofName name = .ok parsed) ∨
        (Log.Level.ofName name ≠ .error .unknownName ∧ logging.threshold.isSome)) := by
  rw [accepts, configure, Except.isOk]
  cases level.text? with
  | none => simp [Except.toBool]
  | some name =>
      cases named : Log.Level.ofName name with
      | ok parsed => cases set : logging.threshold <;> simp [named, Except.toBool]
      | error fault =>
          cases fault with
          | unknownName => simp [named, Except.toBool]
          | _ => cases set : logging.threshold <;> simp [named, Except.toBool]

theorem Logging.threshold_configure {logging : Logging} (set : logging.threshold.isSome)
    (level : Document) : (logging.configure level).2.threshold.isSome := by
  rw [configure]
  split
  · exact set
  · split
    · exact set
    · exact set
    · rfl
    · rfl

/-- What was accepted once is accepted after any other setting. -/
theorem Logging.accepts_configure {logging : Logging} {level : Document}
    (accepted : logging.accepts level = true) (other : Document) :
    (logging.configure other).2.accepts level = true := by
  obtain ⟨name, texted, known⟩ := accepts_iff.1 accepted
  refine accepts_iff.2 ⟨name, texted, known.imp_right fun ⟨named, set⟩ => ⟨named, ?_⟩⟩
  exact threshold_configure set other

@[simp] theorem Metrics.observe_service (metrics : Metrics) (notice : Notice) :
    (metrics.observe notice).service = metrics.service := by
  cases notice <;> rfl

namespace Engine

/-- The collectors of the engine: the registry of each, and its service. -/
def collectors (engine : Engine) : List (String × String) :=
  engine.registries.map fun entry => (entry.1, entry.2.service)

variable {engine before between after : Engine} {earlier later left : List (String × String)}

theorem metrics?_eq_none_iff {registry : String} :
    engine.metrics? registry = none ↔ ∀ entry ∈ engine.collectors, entry.1 ≠ registry := by
  rw [metrics?, List.lookup_eq_none_iff, collectors, List.forall_mem_map]
  refine forall₂_congr fun entry _ => ?_
  rw [bne_iff_ne, ne_comm]

/-! ### What a start leaves -/

/-- Of all that a start may notice, only the collectors `left` are new. -/
structure Leaves (before after : Engine) (left : List (String × String)) : Prop where
  collectors : after.collectors = before.collectors ++ left
  services : after.services = before.services
  stores : after.stores = before.stores
  accepts : ∀ level, before.logging.accepts level = true → after.logging.accepts level = true

theorem Leaves.refl (engine : Engine) : engine.Leaves engine [] where
  collectors := (List.append_nil _).symm
  services := rfl
  stores := rfl
  accepts _ accepted := accepted

theorem Leaves.trans (first : before.Leaves between earlier) (second : between.Leaves after later) :
    before.Leaves after (earlier ++ later) where
  collectors := by rw [second.collectors, first.collectors, List.append_assoc]
  services := second.services.trans first.services
  stores := second.stores.trans first.stores
  accepts level accepted := second.accepts level (first.accepts level accepted)

theorem Leaves.metrics?_eq_none_iff (leaves : before.Leaves after left) {registry : String} :
    after.metrics? registry = none ↔
      before.metrics? registry = none ∧ ∀ entry ∈ left, entry.1 ≠ registry := by
  rw [Engine.metrics?_eq_none_iff, Engine.metrics?_eq_none_iff, leaves.collectors,
    List.forall_mem_append]

theorem tell_leaves (engine : Engine) (collector : Option String) (notice : Notice) :
    engine.Leaves (engine.tell collector notice) [] where
  collectors := by
    rw [List.append_nil]
    cases collector with
    | none => rfl
    | some registry =>
        simp only [tell, updateMetrics, collectors, List.map_map]
        refine List.map_congr_left fun entry _ => ?_
        rw [Function.comp_apply]
        split
        · rw [Metrics.observe_service]
        · rfl
  services := tell_services ..
  stores := tell_stores ..
  accepts level accepted := by
    cases collector <;> exact accepted

theorem tellAll_leaves (engine : Engine) (collector : Option String) (notices : List Notice) :
    engine.Leaves (engine.tellAll collector notices) [] := by
  induction notices generalizing engine with
  | nil => exact .refl engine
  | cons notice rest ih => exact (engine.tell_leaves collector notice).trans (ih _)

theorem configureLogging_leaves (engine : Engine) (service : String) (level : Document) :
    engine.Leaves (engine.configureLogging service level).2 [] := by
  have set : engine.Leaves
      { engine with logging := (engine.logging.configure level).2 } [] :=
    { Leaves.refl engine with
      accepts := fun _ accepted => Logging.accepts_configure accepted level }
  rw [configureLogging]
  cases came : engine.logging.configure level with
  | mk result logging =>
    rw [came] at set
    cases result with
    | ok _ => exact set.trans (tell_leaves _ none (.loggingConfigured service level))
    | error fault => exact set

/-- Setting up the log succeeds when the log takes the level. -/
theorem configureLogging_isOk (engine : Engine) (service : String) (level : Document) :
    (engine.configureLogging service level).1.isOk = engine.logging.accepts level := by
  rw [configureLogging, Logging.accepts]
  cases engine.logging.configure level with
  | mk result logging => cases result <;> rfl

/-! ### The collector -/

variable {attempt : Attempt} {registry : String}

/-- The engine with the collector of a service registered. -/
def withCollector (engine : Engine) (registry service : String) : Engine :=
  { engine with registries := engine.registries ++ [(registry, .ofService service)] }

theorem withCollector_leaves (engine : Engine) (registry service : String) :
    engine.Leaves (engine.withCollector registry service) [(registry, service)] :=
  { Leaves.refl engine with collectors := List.map_append }

theorem collectorFor_of_unneeded (unneeded : attempt.needsCollector = false) (engine : Engine)
    (registry : String) :
    engine.collectorFor attempt.settings attempt.given registry =
      .ok (attempt.collector registry, engine) := by
  rw [Attempt.collector, if_neg (Bool.eq_false_iff.1 unneeded)]
  rw [Attempt.needsCollector] at unneeded
  cases given : attempt.given with
  | some collector => rfl
  | none =>
      have uncounted : attempt.settings.countsEvents = false := by simpa [given] using unneeded
      simp [collectorFor, uncounted]

theorem collectorFor_of_free (needs : attempt.needsCollector = true)
    (free : engine.metrics? registry = none) :
    engine.collectorFor attempt.settings attempt.given registry =
      .ok (attempt.collector registry, engine.withCollector registry attempt.settings.service) := by
  rw [Attempt.collector, if_pos needs]
  obtain ⟨given, counts⟩ : attempt.given = none ∧ attempt.settings.countsEvents = true := by
    simpa [Attempt.needsCollector] using needs
  simp [collectorFor, given, counts, register, free, withCollector, Failure.lift, bind, Except.bind,
    pure, Except.pure]

theorem collectorFor_of_taken (needs : attempt.needsCollector = true)
    (taken : engine.metrics? registry ≠ none) :
    engine.collectorFor attempt.settings attempt.given registry =
      .error (.fault .duplicateSeries) := by
  obtain ⟨given, counts⟩ : attempt.given = none ∧ attempt.settings.countsEvents = true := by
    simpa [Attempt.needsCollector] using needs
  obtain ⟨metrics, found⟩ := Option.ne_none_iff_exists'.1 taken
  simp [collectorFor, given, counts, register, found, Failure.lift, bind, Except.bind]

/-- An attempt gets its collector when it needs none or the registry is free. -/
theorem collectorFor_of_ready
    (ready : attempt.needsCollector = true → engine.metrics? registry = none) :
    ∃ next, engine.collectorFor attempt.settings attempt.given registry =
        .ok (attempt.collector registry, next) ∧
      engine.Leaves next
        (if attempt.needsCollector then [(registry, attempt.settings.service)] else []) := by
  cases needs : attempt.needsCollector with
  | false => exact ⟨engine, collectorFor_of_unneeded needs engine registry, .refl engine⟩
  | true => exact ⟨_, collectorFor_of_free needs (ready needs), withCollector_leaves ..⟩

/-! ### The source -/

/-- The source of an attempt brings the same whenever it is asked. -/
theorem exists_fetch_of_source {source : RuleSource}
    (chosen : attempt.settings.source = .ok source) :
    ∃ fetch : Fetch, (∀ engine, source.fetch attempt.providers engine = fetch.run engine) ∧
      attempt.brought = fetch.outcome.rules := by
  obtain ⟨fetch, same⟩ := source.exists_fetch attempt.providers
  refine ⟨fetch, same, ?_⟩
  rw [Attempt.brought, chosen]
  exact congrArg (fun fetched => fetched.1.rules) (same initial)

theorem openClient_of_ok {rules : List Rule} (brought : attempt.brought = .ok rules)
    (engine : Engine) (collector : Option String) :
    ∃ next, engine.openClient attempt.settings collector
        (fun source => source.fetch attempt.providers) =
        (.ok (.withResolver .standard collector engine.services.length), next) ∧
      next.services = engine.services ++ [engine.built rules .standard collector] := by
  cases chosen : attempt.settings.source with
  | error other =>
      rw [Attempt.brought, chosen] at brought
      cases brought
  | ok source =>
      obtain ⟨fetch, same, brings⟩ := exists_fetch_of_source chosen
      have loaded : (source.fetch attempt.providers engine).1.rules = .ok rules := by
        rw [same, ← brought, brings]
        rfl
      obtain ⟨next, came, built⟩ :=
        Client.initializeByFetch_new_of_ok .standard collector loaded
      -- The fetch may tell something, but it builds no resolver and makes no store.
      have told := engine.tellAll_leaves none fetch.told
      have services : (source.fetch attempt.providers engine).2.services = engine.services := by
        rw [same]
        exact told.services
      have stores : (source.fetch attempt.providers engine).2.stores = engine.stores := by
        rw [same]
        exact told.stores
      rw [services] at came built
      rw [Engine.built, stores] at built
      exact ⟨next, by simp only [openClient, chosen, came], built⟩

theorem openClient_of_error {failure : Failure} (brought : attempt.brought = .error failure)
    (engine : Engine) (collector : Option String) :
    ∃ next, engine.openClient attempt.settings collector
        (fun source => source.fetch attempt.providers) = (.error failure, next) ∧
      engine.Leaves next [] := by
  cases chosen : attempt.settings.source with
  | error other =>
      rw [Attempt.brought, chosen] at brought
      obtain rfl := Except.error.inj brought
      exact ⟨engine, by simp only [openClient, chosen], .refl engine⟩
  | ok source =>
      obtain ⟨fetch, same, brings⟩ := exists_fetch_of_source chosen
      have failed : (source.fetch attempt.providers engine).1.rules = .error failure := by
        rw [same, ← brought, brings]
        rfl
      have came := Client.initializeByFetch_new_of_error .standard collector failed
      refine ⟨(source.fetch attempt.providers engine).2.tell collector (.loadFailed failure),
        by simp only [openClient, chosen, came], ?_⟩
      rw [same]
      exact (tellAll_leaves engine none fetch.told).trans (tell_leaves ..)

/-! ### One start -/

/-- Does the log take the level that the attempt asks for? -/
def takesLevel (engine : Engine) (attempt : Attempt) : Bool :=
  engine.logging.accepts (.text attempt.settings.logLevel)

/-- The collector that an attempt leaves in the registry when it fails: its own, if it gets as far
as registering one. -/
def leftBehind (engine : Engine) (registry : String) (attempt : Attempt) :
    List (String × String) :=
  if engine.takesLevel attempt && attempt.needsCollector && (engine.metrics? registry).isNone
  then [(registry, attempt.settings.service)] else []

/-- A start whose level is not taken fails at once. -/
theorem attempt_of_refused (refused : engine.takesLevel attempt = false) (registry : String) :
    ∃ failure, (engine.attempt registry attempt).1 = .error failure ∧
      engine.Leaves (engine.attempt registry attempt).2 [] := by
  have leaves := engine.configureLogging_leaves attempt.settings.service
    (.text attempt.settings.logLevel)
  have came := engine.configureLogging_isOk attempt.settings.service
    (.text attempt.settings.logLevel)
  rw [takesLevel] at refused
  rw [refused] at came
  rw [Engine.attempt, startClient]
  cases set : engine.configureLogging attempt.settings.service
      (.text attempt.settings.logLevel) with
  | mk result next =>
    rw [set] at came leaves
    cases result with
    | ok _ => cases came
    | error failure => exact ⟨failure, rfl, leaves⟩

/-- A start whose level is taken goes on with its collector. -/
theorem attempt_of_taken (taken : engine.takesLevel attempt = true) (registry : String) :
    ∃ next, engine.Leaves next [] ∧ engine.attempt registry attempt =
      match next.collectorFor attempt.settings attempt.given registry with
      | .error failure => (.error failure, next)
      | .ok (collector, next) => next.openClient attempt.settings collector fun source =>
          source.fetch attempt.providers := by
  have leaves := engine.configureLogging_leaves attempt.settings.service
    (.text attempt.settings.logLevel)
  have came := engine.configureLogging_isOk attempt.settings.service
    (.text attempt.settings.logLevel)
  rw [takesLevel] at taken
  rw [taken] at came
  rw [Engine.attempt, startClient]
  cases set : engine.configureLogging attempt.settings.service
      (.text attempt.settings.logLevel) with
  | mk result next =>
    rw [set] at came leaves
    cases result with
    | ok _ => exact ⟨next, leaves, rfl⟩
    | error failure => cases came

/-- A start succeeds when its level is taken, it gets its collector, and its source brings
rules. -/
theorem attempt_of_ok (taken : engine.takesLevel attempt = true)
    (ready : attempt.needsCollector = true → engine.metrics? registry = none) {rules : List Rule}
    (brought : attempt.brought = .ok rules) :
    ∃ next, engine.attempt registry attempt =
        (.ok (.withResolver .standard (attempt.collector registry) engine.services.length), next) ∧
      next.services = engine.services ++
        [engine.built rules .standard (attempt.collector registry)] := by
  obtain ⟨set, logged, attempted⟩ := attempt_of_taken taken registry
  have ready' : attempt.needsCollector = true → set.metrics? registry = none := fun needs =>
    logged.metrics?_eq_none_iff.2 ⟨ready needs, by simp⟩
  obtain ⟨counting, chosen, registered⟩ := collectorFor_of_ready ready'
  obtain ⟨next, opened, built⟩ :=
    openClient_of_ok brought counting (attempt.collector registry)
  have leaves := logged.trans registered
  rw [leaves.services] at opened built
  rw [Engine.built, leaves.stores] at built
  refine ⟨next, ?_, built⟩
  rw [attempted, chosen]
  exact opened

/-- One whose source brings no rules fails for that reason, and leaves its collector. -/
theorem attempt_of_unbrought (taken : engine.takesLevel attempt = true)
    (ready : attempt.needsCollector = true → engine.metrics? registry = none) {failure : Failure}
    (brought : attempt.brought = .error failure) :
    (engine.attempt registry attempt).1 = .error failure ∧
      engine.Leaves (engine.attempt registry attempt).2
        (if attempt.needsCollector then [(registry, attempt.settings.service)] else []) := by
  obtain ⟨set, logged, attempted⟩ := attempt_of_taken taken registry
  have ready' : attempt.needsCollector = true → set.metrics? registry = none := fun needs =>
    logged.metrics?_eq_none_iff.2 ⟨ready needs, by simp⟩
  obtain ⟨counting, chosen, registered⟩ := collectorFor_of_ready ready'
  obtain ⟨next, opened, leaves⟩ :=
    openClient_of_error brought counting (attempt.collector registry)
  rw [attempted, chosen]
  simp only [opened]
  refine ⟨trivial, ?_⟩
  simpa using (logged.trans registered).trans leaves

/-- One that finds the registry taken fails before its source is chosen. -/
theorem attempt_of_occupied (taken : engine.takesLevel attempt = true)
    (needs : attempt.needsCollector = true) (occupied : engine.metrics? registry ≠ none) :
    (engine.attempt registry attempt).1 = .error (.fault .duplicateSeries) ∧
      engine.Leaves (engine.attempt registry attempt).2 [] := by
  obtain ⟨set, logged, attempted⟩ := attempt_of_taken taken registry
  have occupied' : set.metrics? registry ≠ none := fun free =>
    occupied (logged.metrics?_eq_none_iff.1 free).1
  rw [attempted, collectorFor_of_taken needs occupied']
  exact ⟨rfl, logged⟩

/-- A start that fails leaves the collectors as they were, but for its own. -/
theorem attempt_of_error {failure : Failure}
    (failed : (engine.attempt registry attempt).1 = .error failure) :
    engine.Leaves (engine.attempt registry attempt).2 (engine.leftBehind registry attempt) := by
  -- The steps in their order: the level, the registry, the source.
  cases taken : engine.takesLevel attempt with
  | false =>
      obtain ⟨-, -, leaves⟩ := attempt_of_refused taken registry
      simpa [leftBehind, taken] using leaves
  | true =>
      by_cases ready : attempt.needsCollector = true → engine.metrics? registry = none
      · cases brought : attempt.brought with
        | ok rules =>
            obtain ⟨next, succeeds, -⟩ := attempt_of_ok taken ready brought
            rw [succeeds] at failed
            cases failed
        | error other =>
            obtain ⟨-, leaves⟩ := attempt_of_unbrought taken ready brought
            cases needs : attempt.needsCollector with
            | false => simpa [leftBehind, needs] using leaves
            | true => simpa [leftBehind, taken, needs, ready needs] using leaves
      · obtain ⟨needs, occupied⟩ := Classical.not_imp.1 ready
        obtain ⟨-, leaves⟩ := attempt_of_occupied taken needs occupied
        simpa [leftBehind, occupied] using leaves

/-- What is known of a start that succeeds. -/
theorem attempt_of_client {client : Client}
    (succeeded : (engine.attempt registry attempt).1 = .ok client) :
    engine.takesLevel attempt = true ∧
      (attempt.needsCollector = true → engine.metrics? registry = none) ∧
      ∃ rules, attempt.brought = .ok rules := by
  cases taken : engine.takesLevel attempt with
  | false =>
      obtain ⟨failure, failed, -⟩ := attempt_of_refused taken registry
      rw [failed] at succeeded
      cases succeeded
  | true =>
      by_cases ready : attempt.needsCollector = true → engine.metrics? registry = none
      · refine ⟨rfl, ready, ?_⟩
        cases brought : attempt.brought with
        | ok rules => exact ⟨rules, rfl⟩
        | error failure =>
            obtain ⟨failed, -⟩ := attempt_of_unbrought taken ready brought
            rw [failed] at succeeded
            cases succeeded
      · obtain ⟨needs, occupied⟩ := Classical.not_imp.1 ready
        obtain ⟨failed, -⟩ := attempt_of_occupied taken needs occupied
        rw [failed] at succeeded
        cases succeeded

/-! ### Runs of starts that fail -/

/-- The engine after some starts, one after another on one registry. -/
def afterAttempts (engine : Engine) (registry : String) : List Attempt → Engine
  | [] => engine
  | attempt :: rest => afterAttempts (engine.attempt registry attempt).2 registry rest

/-- Every one of the starts fails when its turn comes. -/
def AllFail (engine : Engine) (registry : String) : List Attempt → Prop
  | [] => True
  | attempt :: rest => (∃ failure, (engine.attempt registry attempt).1 = .error failure) ∧
      AllFail (engine.attempt registry attempt).2 registry rest

/-- The collectors that the starts leave in the registry. -/
def leftBy (engine : Engine) (registry : String) : List Attempt → List (String × String)
  | [] => []
  | attempt :: rest => engine.leftBehind registry attempt ++
      leftBy (engine.attempt registry attempt).2 registry rest

theorem afterAttempts_leaves {attempts : List Attempt} (fail : engine.AllFail registry attempts) :
    engine.Leaves (engine.afterAttempts registry attempts) (engine.leftBy registry attempts) := by
  induction attempts generalizing engine with
  | nil => exact .refl engine
  | cons attempt rest ih =>
      obtain ⟨⟨failure, failed⟩, others⟩ := fail
      have later := ih others
      unfold afterAttempts leftBy
      exact (attempt_of_error failed).trans later

/-- Whatever is left stands in the registry of the starts. -/
theorem leftBy_fst {attempts : List Attempt} :
    ∀ entry ∈ engine.leftBy registry attempts, entry.1 = registry := by
  induction attempts generalizing engine with
  | nil => exact fun _ among => nomatch among
  | cons attempt rest ih =>
      intro entry among
      rw [leftBy] at among
      obtain among | among := List.mem_append.1 among
      · rw [leftBehind] at among
        split at among
        · rw [List.mem_singleton.1 among]
        · cases among
      · exact ih entry among

/-- Starts that fail leave the collectors as they were, and those that they registered. After
them, on a registry that was free, a start that would have succeeded as the first one succeeds with
the same client over the same resolver; but when it has to register a collector and one is left, it
fails for that. -/
theorem attempt_after_failures (engine : Engine) (registry : String) {attempts : List Attempt}
    (fail : engine.AllFail registry attempts) :
    (engine.afterAttempts registry attempts).collectors =
        engine.collectors ++ engine.leftBy registry attempts ∧
    (engine.metrics? registry = none → ∀ last client,
      (engine.attempt registry last).1 = .ok client →
      (last.needsCollector = false ∨ engine.leftBy registry attempts = [] →
        ((engine.afterAttempts registry attempts).attempt registry last).1 = .ok client ∧
        ((engine.afterAttempts registry attempts).attempt registry last).2.services =
          (engine.attempt registry last).2.services) ∧
      (last.needsCollector = true ∧ engine.leftBy registry attempts ≠ [] →
        ((engine.afterAttempts registry attempts).attempt registry last).1 =
          .error (.fault .duplicateSeries))) := by
  have leaves := afterAttempts_leaves fail
  refine ⟨leaves.collectors, fun free last client alone => ?_⟩
  obtain ⟨taken, -, rules, brought⟩ := attempt_of_client alone
  have taken' : (engine.afterAttempts registry attempts).takesLevel last = true :=
    leaves.accepts _ taken
  constructor
  · intro unhindered
    have ready : last.needsCollector = true →
        (engine.afterAttempts registry attempts).metrics? registry = none := by
      intro needs
      obtain unneeded | nothing := unhindered
      · rw [needs] at unneeded
        cases unneeded
      · refine leaves.metrics?_eq_none_iff.2 ⟨free, ?_⟩
        rw [nothing]
        exact fun _ among => nomatch among
    obtain ⟨first, started, built⟩ := attempt_of_ok taken (fun _ => free) brought
    obtain ⟨next, started', built'⟩ := attempt_of_ok taken' ready brought
    rw [started] at alone
    obtain rfl := Except.ok.inj alone
    rw [started, started', built, built', leaves.services, Engine.built, Engine.built,
      leaves.stores]
    exact ⟨rfl, rfl⟩
  · rintro ⟨needs, some⟩
    obtain ⟨entry, among⟩ := List.exists_mem_of_ne_nil _ some
    -- Any collector that is left occupies the registry.
    have occupied : (engine.afterAttempts registry attempts).metrics? registry ≠ none :=
      fun empty => (leaves.metrics?_eq_none_iff.1 empty).2 entry among (leftBy_fst entry among)
    exact (attempt_of_occupied taken' needs occupied).1

/-- A start with a level that nobody knows, one without a source that counts nothing, and then a
good one. -/
theorem attempt_after_failures_of_level_and_source :
    let settings : Settings :=
      ⟨"local", "info", "permissions", none, some "rules.json", Settings.defaultTimeout, none, true⟩
    let present : Providers :=
      ⟨fun _ => .content [0x5B, 0x5D] ⟨"", .malformed⟩, fun _ => .failed "no route"⟩
    let attempts : List Attempt := [⟨{ settings with logLevel := "loud" }, none, present⟩,
      ⟨{ settings with rulesFile := none, countsEvents := false }, none, present⟩]
    let last : Attempt := ⟨settings, none, present⟩
    initial.AllFail "main" attempts ∧ initial.metrics? "main" = none ∧
      (initial.attempt "main" last).1 = .ok (.withResolver .standard (some "main") 0) ∧
      (initial.afterAttempts "main" attempts).collectors = [] ∧
      ((initial.afterAttempts "main" attempts).attempt "main" last).1 =
        .ok (.withResolver .standard (some "main") 0) := by
  intro settings present attempts last
  have fail : initial.AllFail "main" attempts := by
    dsimp only [attempts, present, settings]
    exact ⟨⟨.fault .unknownName, rfl⟩, ⟨.report Settings.noSource, rfl⟩, trivial⟩
  have alone : (initial.attempt "main" last).1 =
      .ok (.withResolver .standard (some "main") 0) := by
    dsimp only [last, present, settings]
    rfl
  have nothing : initial.leftBy "main" attempts = [] := by
    dsimp only [attempts, present, settings]
    rfl
  obtain ⟨left, again⟩ := attempt_after_failures initial "main" fail
  rw [nothing] at left
  have free : initial.metrics? "main" = none := rfl
  obtain ⟨succeeds, -⟩ := again free last _ alone
  exact ⟨fail, free, alone, left, (succeeds (Or.inr nothing)).1⟩

/-- A start that has no source leaves its collector, and a good one that comes after it fails for
that. -/
theorem not_started_again_after_missing_source :
    let settings : Settings :=
      ⟨"local", "info", "permissions", none, some "rules.json", Settings.defaultTimeout, none, true⟩
    let present : Providers :=
      ⟨fun _ => .content [0x5B, 0x5D] ⟨"", .malformed⟩, fun _ => .failed "no route"⟩
    let sourceless : Attempt := ⟨{ settings with rulesFile := none }, none, present⟩
    let last : Attempt := ⟨settings, none, present⟩
    initial.collectors = [] ∧
      (initial.attempt "main" sourceless).1 = .error (.report Settings.noSource) ∧
      (initial.attempt "main" sourceless).2.collectors = [("main", "permissions")] ∧
      (initial.attempt "main" last).1 = .ok (.withResolver .standard (some "main") 0) ∧
      ((initial.attempt "main" sourceless).2.attempt "main" last).1 =
        .error (.fault .duplicateSeries) :=
  ⟨rfl, rfl, rfl, rfl, rfl⟩

end Engine

end AccessRules
