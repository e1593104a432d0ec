import AccessRules.Proofs.Deployment.Logging
import AccessRules.Proofs.Engine.Audit
import AccessRules.Proofs.Log.Line
import AccessRules.Proofs.Startup.Retry

/-!
# The level of the log over many starts

The log may be set up any number of times, by itself or in the course of a start, and each time a
level is asked for. `Act` is what may happen, and a run of acts comes to nothing but the levels that
were asked for (`afterActs_logging`). Of these the first one stays (`Logging.after_of_set`).

What a threshold means is `Logging.WritesFrom`: of all the calls that could write a line, the log
writes those from a level upwards. Two levels mean the same if no method writes between them
(`Level.least`).

**`first_level_stays`** says what is written after any run: the events from the first level upwards,
so that the latest level is honoured exactly when it means the same. **`latest_level_is_ignored`**
is a run where it does not.
-/

namespace AccessRules

/-! ### Levels -/

/-- The least level of a method that passes the threshold. -/
def Log.Level.least : Log.Level → Log.Level
  | .notset => .debug
  | level => level

theorem Log.Level.least_rank_le {threshold level : Log.Level} (method : level ≠ .notset) :
    threshold.least.rank ≤ level.rank ↔ threshold.rank ≤ level.rank := by
  cases threshold <;> first | exact Iff.rfl | (cases level <;> first | contradiction | decide)

theorem Log.Level.least_ne (threshold : Log.Level) : threshold.least ≠ .notset := by
  cases threshold <;> decide

theorem Log.Level.rank_inj {one other : Log.Level} (same : one.rank = other.rank) :
    one = other := by
  cases one <;> cases other <;> first | rfl | cases same

/-- Two thresholds that the same methods pass have the same least method. -/
theorem Log.Level.least_eq_iff {one other : Log.Level} :
    one.least = other.least ↔
      ∀ level : Log.Level, level ≠ .notset → (one.rank ≤ level.rank ↔ other.rank ≤ level.rank) := by
  constructor
  · intro same level method
    rw [← least_rank_le method, same, least_rank_le method]
  · intro alike
    -- Each of the two least methods passes the other threshold.
    have passes (threshold : Level) : threshold.rank ≤ threshold.least.rank :=
      (least_rank_le threshold.least_ne).1 (Nat.le_refl _)
    have mine := (alike one.least one.least_ne).1 (passes one)
    have others := (alike other.least other.least_ne).2 (passes other)
    exact rank_inj (Nat.le_antisymm ((least_rank_le other.least_ne).2 others)
      ((least_rank_le one.least_ne).2 mine))

/-- The level that a document names. -/
def levelOf? (level : Document) : Option Log.Level :=
  level.text?.bind fun name => (Log.Level.ofName name).toOption

/-! ### What is written -/

/-- A setting that drops nothing, outside of any span and for no request. -/
def Log.Setting.plain (moment : Log.Moment) : Log.Setting :=
  ⟨.notset, none, .clear, .calm "", moment⟩

/-- A call of the root logger that says nothing. -/
def Log.Call.blank (level : Log.Level) : Log.Call := ⟨.null, level, false, .text "", [], []⟩

/-- The call is of a method, and makes a line when nothing is dropped. -/
structure Log.Call.Logs (call : Log.Call) (setting : Log.Setting) : Prop where
  method : call.level ≠ .notset
  line : ∃ line, Log.line? { setting with threshold := .notset } call = .ok (some line)

namespace Logging

/-- The line that the log writes for a call, in a setting whose threshold is the log's. -/
def line? (logging : Logging) (setting : Log.Setting) (call : Log.Call) : Option Members :=
  if logging.installed then
    logging.threshold.bind fun threshold =>
      (Log.line? { setting with threshold := threshold } call).toOption.join
  else none

/-- Of the calls that can write a line, the log writes those from a level upwards. -/
def WritesFrom (logging : Logging) (level : Log.Level) : Prop :=
  ∀ setting call, call.Logs setting →
    ((logging.line? setting call).isSome = true ↔ level.rank ≤ call.level.rank)

end Logging

/-- A threshold drops the calls below it and changes nothing about the others. -/
theorem Log.line?_of_unfiltered {setting : Log.Setting} {call : Log.Call} {line : Members}
    (written : Log.line? { setting with threshold := .notset } call = .ok (some line))
    (threshold : Log.Level) :
    Log.line? { setting with threshold := threshold } call =
      .ok (if threshold.rank ≤ call.level.rank then some line else none) := by
  have either : Log.line? { setting with threshold := threshold } call =
      if call.level.rank < threshold.rank then .ok none
      else Log.line? { setting with threshold := .notset } call := by
    unfold Log.line? at written ⊢
    cases made : call.members with
    | error fault =>
        rw [made] at written
        cases written
    | ok event =>
        cases named : Log.loggerName call.logger with
        | error fault =>
            rw [made, named] at written
            cases written
        | ok name => rfl
  rw [either, written]
  by_cases passes : threshold.rank ≤ call.level.rank
  · rw [if_neg (Nat.not_lt.2 passes), if_pos passes]
  · rw [if_pos (Nat.not_le.1 passes), if_neg passes]

namespace Logging

variable {logging : Logging} {first last : Log.Level}

theorem line?_of_set (setting : Log.Setting) {call : Log.Call} {line : Members}
    (written : Log.line? { setting with threshold := .notset } call = .ok (some line))
    (first : Log.Level) :
    (⟨true, some first⟩ : Logging).line? setting call =
      if first.rank ≤ call.level.rank then some line else none := by
  rw [line?, if_pos rfl, Option.bind_some, Log.line?_of_unfiltered written]
  rfl

/-- A log with a threshold writes from it upwards. -/
theorem writesFrom_of_set (first : Log.Level) :
    (⟨true, some first⟩ : Logging).WritesFrom first := by
  intro setting call logs
  obtain ⟨line, written⟩ := logs.line
  rw [line?_of_set setting written]
  split
  next passes => exact iff_of_true rfl passes
  next drops => exact iff_of_false Bool.false_ne_true drops

theorem logs_blank {level : Log.Level} (method : level ≠ .notset) (setting : Log.Setting) :
    (Log.Call.blank level).Logs setting where
  method := method
  line := by
    have named : Log.loggerName (Log.Call.blank level).logger = .ok Log.rootName := rfl
    have own : ∀ name ∈ Log.ownNames, (Log.Call.blank level).fields.has name = false :=
      fun _ _ => rfl
    have fits : (Log.Call.blank level).Fits "" "" := ⟨none, rfl, rfl⟩
    have passes : ({ setting with threshold := .notset } : Log.Setting).threshold.rank ≤
        (Log.Call.blank level).level.rank := Nat.zero_le _
    obtain ⟨filled, -, written⟩ := Log.exists_dressed named rfl own fits passes rfl
    exact ⟨_, written⟩

/-- A log writes from one level upwards, and from just those others that mean the same. -/
theorem WritesFrom.iff_least (writes : logging.WritesFrom first) :
    logging.WritesFrom last ↔ last.least = first.least := by
  rw [Log.Level.least_eq_iff]
  constructor
  · intro also level method
    have logs := logs_blank method (.plain ⟨"", 0⟩)
    exact (also _ _ logs).symm.trans (writes _ _ logs)
  · intro alike setting call logs
    exact (writes setting call logs).trans (alike call.level logs.method).symm

/-! ### Setting the level -/

theorem after_append (logging : Logging) (earlier later : List Document) :
    logging.after (earlier ++ later) = (logging.after earlier).after later :=
  List.foldl_append

/-- A threshold that is set stays. -/
theorem after_of_set (first : Log.Level) (levels : List Document) :
    (⟨true, some first⟩ : Logging).after levels = ⟨true, some first⟩ := by
  induction levels with
  | nil => rfl
  | cons level rest ih =>
      have same : ((⟨true, some first⟩ : Logging).configure level).2 = ⟨true, some first⟩ := by
        rw [configure]
        split
        · rfl
        · split <;> simp_all
      rw [after, List.foldl_cons, same]
      exact ih

/-- The first setting that succeeds sets the threshold to its level. -/
theorem configure_of_unset (unset : logging.threshold = none) {level : Document}
    (accepted : logging.accepts level = true) :
    ∃ first, levelOf? level = some first ∧ (logging.configure level).2 = ⟨true, some first⟩ := by
  obtain ⟨name, texted, ⟨first, named⟩ | ⟨-, set⟩⟩ := accepts_iff.1 accepted
  · refine ⟨first, by rw [levelOf?, texted, Option.bind_some, named]; rfl, ?_⟩
    simp only [configure, texted, named, unset]
  · rw [unset] at set
    cases set

end Logging

/-! ### Runs -/

namespace Deployment

/-- What may happen to a deployment. -/
inductive Act where
  /-- The log is set up for a service, by itself. -/
  | configure (service : String) (level : Document)
  | operate (operation : Operation)

/-- The service and the level for which an act sets up the log. -/
def Act.setting? : Act → Option (String × Document)
  | .configure service level => some (service, level)
  | .operate operation => operation.setting?

/-- Let an act happen. -/
def act (deployment : Deployment) : Act → Deployment
  | .configure service level =>
      { deployment with engine := (deployment.engine.configureLogging service level).2 }
  | .operate operation => (deployment.perform operation).2

/-- The state after some acts. -/
def afterActs (deployment : Deployment) (acts : List Act) : Deployment :=
  acts.foldl act deployment

/-- The levels that a run of acts asks for. -/
def levels (acts : List Act) : List Document := (acts.filterMap Act.setting?).map Prod.snd

theorem levels_cons (act : Act) (rest : List Act) :
    levels (act :: rest) = levels [act] ++ levels rest := by
  rw [levels, levels, levels, ← List.map_append, ← List.filterMap_append, List.singleton_append]

theorem act_logging (deployment : Deployment) (act : Act) :
    (deployment.act act).engine.logging = deployment.engine.logging.after (levels [act]) := by
  cases act with
  | configure service level => exact Engine.configureLogging_logging ..
  | operate operation =>
      refine (deployment.perform_logging operation).trans ?_
      rw [levels, List.filterMap_cons, Act.setting?]
      cases operation.setting? <;> rfl

/-- Of a run, the log keeps the levels that were asked for and nothing else. -/
theorem afterActs_logging (deployment : Deployment) (acts : List Act) :
    (deployment.afterActs acts).engine.logging =
      deployment.engine.logging.after (levels acts) := by
  induction acts generalizing deployment with
  | nil => rfl
  | cons act rest ih =>
      rw [levels_cons act rest, Logging.after_append, ← act_logging]
      exact ih (deployment.act act)

end Deployment

/-! ### Events -/

/-- The names that stand for something else than a field of an event. -/
def reservedNames : List String := "_record" :: "positional_args" :: Log.ownNames

/-- The event of a notice is of a method, and no field of it goes by a reserved name. -/
theorem Notice.event_plain {notice : Notice} {event : LogEvent}
    (tells : notice.event? = some event) :
    event.level ≠ .notset ∧ ∀ name ∈ reservedNames, name ∉ event.fields.map Prod.fst := by
  cases notice with
  | conditionFailed subject resource report announced =>
      cases announced with
      | true =>
          obtain rfl := Option.some.inj tells
          exact ⟨nofun, by simp [reservedNames, Log.ownNames]⟩
      | false => cases tells
  | _ =>
      obtain rfl := Option.some.inj tells
      exact ⟨nofun, by simp [reservedNames, Log.ownNames]⟩

/-- The event of a notice writes a line with its text when its level passes. -/
theorem Notice.exists_line {notice : Notice} {event : LogEvent}
    (tells : notice.event? = some event) {setting : Log.Setting}
    (passes : setting.threshold.rank ≤ event.level.rank) :
    ∃ line, Log.line? setting event.call = .ok (some line) ∧
      line.get? "event" = some (.text event.text) := by
  have absent (name : String) (reserved : name ∈ reservedNames) :
      event.call.fields.get? name = none :=
    Members.get?_eq_none_of_fields ((Notice.event_plain tells).2 name reserved)
  have named : Log.loggerName event.call.logger =
      .ok (if event.logger.isEmpty then Log.rootName else event.logger) := rfl
  have stated : event.call.event = .text event.text := rfl
  have own : ∀ name ∈ Log.ownNames, event.call.fields.has name = false := by
    intro name among
    rw [Members.has_eq, absent name (List.mem_cons_of_mem _ (List.mem_cons_of_mem _ among))]
    rfl
  have fits : event.call.Fits event.text event.text := by
    refine ⟨none, ?_, rfl⟩
    show Log.argumentsOf [] event.call.fields = _
    rw [Log.argumentsOf, absent "positional_args" (by simp [reservedNames])]
  have unrecorded : event.call.holdsRecord = false := by
    rw [Log.Call.holdsRecord, absent "_record" (by simp [reservedNames])]
  obtain ⟨filled, whole, written⟩ :=
    Log.exists_dressed named stated own fits passes unrecorded
  exact ⟨_, written, (whole.carries setting).event⟩

namespace Engine

/-- What is told gets the line that the log writes for its event, outside of any span. -/
theorem tell_lines (engine : Engine) (collector : Option String) {notice : Notice}
    {event : LogEvent} (tells : notice.event? = some event) (moment : Log.Moment) :
    (engine.tell collector notice).lines moment = engine.lines moment ++
      (engine.logging.line? (.plain moment) event.call).toList := by
  have same : JournalEntry.line? moment ⟨notice, engine.logging⟩ =
      engine.logging.line? (.plain moment) event.call := by
    unfold JournalEntry.line? Logging.line?
    rw [tells]
    cases engine.logging.installed with
    | false => rfl
    | true =>
        cases engine.logging.threshold with
        | none => rfl
        | some threshold =>
            simp only [if_true, Option.bind_some, Log.Setting.plain]
            cases Log.line? ⟨threshold, none, .clear, .calm "", moment⟩ event.call <;> rfl
  rw [lines, lines, tell_journal, List.filterMap_append, ← same]
  cases written : JournalEntry.line? moment ⟨notice, engine.logging⟩ <;> simp [written]

/-- The engine writes the events from a level upwards: those of all calls of loggers, and those of
what it tells itself. -/
structure LogsFrom (engine : Engine) (level : Log.Level) : Prop where
  calls : engine.logging.WritesFrom level
  notices : ∀ (collector : Option String) (notice : Notice) (event : LogEvent)
    (moment : Log.Moment), notice.event? = some event →
      ∃ line : Members, line.get? "event" = some (.text event.text) ∧
        (engine.tell collector notice).lines moment =
          engine.lines moment ++ if level.rank ≤ event.level.rank then [line] else []

theorem logsFrom_of_set {engine : Engine} {first : Log.Level}
    (set : engine.logging = ⟨true, some first⟩) : engine.LogsFrom first where
  calls := by
    rw [set]
    exact Logging.writesFrom_of_set first
  notices collector notice event moment tells := by
    obtain ⟨line, written, texted⟩ :
        ∃ line, Log.line? (.plain moment) event.call = .ok (some line) ∧
          line.get? "event" = some (.text event.text) :=
      Notice.exists_line tells (Nat.zero_le _)
    refine ⟨line, texted, ?_⟩
    rw [engine.tell_lines collector tells, set,
      Logging.line?_of_set (.plain moment) written]
    show _ ++ (if first.rank ≤ event.level.rank then some line else none).toList = _
    split <;> rfl

/-- An engine writes from one level upwards, and from just those others that mean the same. -/
theorem LogsFrom.iff_least {engine : Engine} {first last : Log.Level}
    (logs : engine.LogsFrom first) : engine.LogsFrom last ↔ last.least = first.least := by
  refine ⟨fun also => logs.calls.iff_least.1 also.calls, fun same => ?_⟩
  refine ⟨logs.calls.iff_least.2 same, fun collector notice event moment tells => ?_⟩
  have alike := Log.Level.least_eq_iff.1 same event.level (Notice.event_plain tells).1
  simp only [alike]
  exact logs.notices collector notice event moment tells

end Engine

namespace Deployment

/-- **The level of the first setting stays.** Of a run that begins with the log not set up, and
whose first setting of it succeeds, the log writes the events from the level of that setting
upwards. So the level that was asked for latest is honoured exactly when it means the same. -/
theorem first_level_stays {deployment : Deployment}
    (unset : deployment.engine.logging.threshold = none) {acts : List Act} {service : String}
    {first : Document} {rest : List (String × Document)}
    (asked : acts.filterMap Act.setting? = (service, first) :: rest)
    (succeeds : (deployment.engine.configureLogging service first).1.isOk = true) :
    ∃ level, levelOf? first = some level ∧ (deployment.afterActs acts).engine.LogsFrom level ∧
      ∀ latest last, (acts.filterMap Act.setting?).getLast? = some latest →
        levelOf? latest.2 = some last →
        ((deployment.afterActs acts).engine.LogsFrom last ↔ last.least = level.least) := by
  rw [Engine.configureLogging_isOk] at succeeds
  obtain ⟨level, means, set⟩ := Logging.configure_of_unset unset succeeds
  have stays : (deployment.afterActs acts).engine.logging = ⟨true, some level⟩ := by
    rw [afterActs_logging, levels, asked, List.map_cons, Logging.after, List.foldl_cons, set]
    exact Logging.after_of_set level _
  have logs := Engine.logsFrom_of_set stays
  exact ⟨level, means, logs, fun _ _ _ _ => logs.iff_least⟩

/-- A start over a file without rules that asks for a level. -/
def startAt (registry level : String) : Operation :=
  .start registry
    ⟨⟨"local", level, "permissions", none, some "rules.json", Settings.defaultTimeout, none, true⟩,
      none, ⟨fun _ => .content [0x5B, 0x5D] ⟨"", .malformed⟩, fun _ => .failed "no route"⟩⟩

/-- A deployment that has just begun. -/
def initial : Deployment := ⟨.initial, [], 0⟩

/-- The log is set up for warnings, a start asks for more, and a last setting asks for warnings by
another name. -/
theorem first_level_stays_for_alias :
    initial.engine.logging.threshold = none ∧
      (initial.engine.configureLogging "permissions" (.text "warning")).1.isOk = true ∧
      [Act.configure "permissions" (.text "warning"), .operate (startAt "main" "Debug"),
          .configure "permissions" (.text "WARN")].filterMap Act.setting? =
        [("permissions", .text "warning"), ("permissions", .text "Debug"),
          ("permissions", .text "WARN")] ∧
      levelOf? (.text "WARN") = some .warning ∧
      (initial.afterActs [.configure "permissions" (.text "warning"),
        .operate (startAt "main" "Debug"), .configure "permissions" (.text "WARN")]).engine.LogsFrom
          .warning := by
  have asked : [Act.configure "permissions" (.text "warning"), .operate (startAt "main" "Debug"),
      .configure "permissions" (.text "WARN")].filterMap Act.setting? =
        [("permissions", .text "warning"), ("permissions", .text "Debug"),
          ("permissions", .text "WARN")] := rfl
  have unset : initial.engine.logging.threshold = none := rfl
  have succeeds :
      (initial.engine.configureLogging "permissions" (.text "warning")).1.isOk = true := rfl
  obtain ⟨level, means, logs, honoured⟩ := first_level_stays unset asked succeeds
  obtain rfl : Log.Level.warning = level := Option.some.inj means
  have latest := congrArg List.getLast? asked
  exact ⟨unset, succeeds, asked, rfl, (honoured _ .warning latest rfl).2 rfl⟩

/-- A start that asks for errors, and then one that asks for more: both succeed, and the log does
not write from the level of the second one upwards. Nothing that the two tell is written. -/
theorem latest_level_is_ignored :
    (initial.perform (startAt "first" "error")).1 = .client 0 ∧
      ((initial.perform (startAt "first" "error")).2.perform (startAt "second" "info")).1 =
        .client 1 ∧
      levelOf? (.text "info") = some .info ∧
      ¬ (initial.afterActs
          [.operate (startAt "first" "error"), .operate (startAt "second" "info")]).engine.LogsFrom
            .info ∧
      ((initial.afterActs [.operate (startAt "first" "error"),
          .operate (startAt "second" "info")]).engine.events.filter (·.level = .info)).length = 4 ∧
      ∀ moment, (initial.afterActs [.operate (startAt "first" "error"),
        .operate (startAt "second" "info")]).engine.lines moment = [] := by
  have set : (initial.afterActs [.operate (startAt "first" "error"),
      .operate (startAt "second" "info")]).engine.logging = ⟨true, some .error⟩ := rfl
  refine ⟨rfl, rfl, rfl, fun logs => ?_, rfl, fun _ => rfl⟩
  have same := (Engine.logsFrom_of_set set).iff_least.1 logs
  cases same

end Deployment

end AccessRules
