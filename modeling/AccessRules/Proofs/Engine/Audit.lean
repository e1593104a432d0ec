import AccessRules.Proofs.Engine.Progress
import AccessRules.Proofs.Resolver.Listing

/-!
# What a decision leaves in the log

A decision is told to the log by two parts of a resolver: the evaluator warns of every condition
that fails, in the middle of the scan, and the scan itself ends with the decision. A `Hearing` puts
the two together: a request, the decision on it, and the reports of the conditions that failed.
`Hearing.trail` is what it leaves in the log, in order.

That a hearing is as it should be (`Hearing.IsSound`) is said by the places of the rules alone: the
rules that fail are those for the request, up to the one that grants it, that let the subject in
and then break on their condition. **`Service.hearing_isSound`** says that what a resolver does is
such a hearing, and the lemmas behind it that deciding and listing write its trail to the log and
nothing else.
-/

namespace AccessRules

/-! ### The log -/

namespace Engine

/-- All that was told to the log, whether or not a threshold lets it through. -/
def events (engine : Engine) : List LogEvent :=
  engine.journal.filterMap fun entry => entry.notice.event?

/-- The events of an audit: the decisions, and the conditions that failed. -/
def audit (engine : Engine) : List LogEvent :=
  engine.events.filter fun event =>
    event.text = "Permission decision" ∨ event.text = "Condition evaluation failed"

variable (engine : Engine) (collector : Option String)

theorem tell_journal (notice : Notice) :
    (engine.tell collector notice).journal = engine.journal ++ [⟨notice, engine.logging⟩] := by
  cases collector <;> rfl

theorem tell_events (notice : Notice) :
    (engine.tell collector notice).events = engine.events ++ notice.event?.toList := by
  rw [events, events, tell_journal, List.filterMap_append]
  cases told : notice.event? <;> simp [told]

theorem tellAll_events (notices : List Notice) :
    (engine.tellAll collector notices).events =
      engine.events ++ notices.filterMap Notice.event? := by
  induction notices generalizing engine with
  | nil => simp [tellAll]
  | cons notice rest ih =>
      refine (ih (engine.tell collector notice)).trans ?_
      rw [tell_events, List.append_assoc, List.filterMap_cons]
      cases notice.event? <;> rfl

end Engine

/-! ### Hearings -/

/-- A request that was decided by rules: the decision, and the reports of the conditions that failed
on the way. -/
structure Hearing where
  rules : List Rule
  subject : Subject
  resource : Resource
  action : Document
  decision : Decision
  reports : List Report

/-- The report of the evaluator on the condition of a rule. -/
def Rule.Reports (rule : Rule) (evaluator : Evaluator) (subject : Subject) (resource : Resource)
    (report : Report) : Prop :=
  ∃ condition ∈ rule.condition, (evaluator.outcome condition subject resource).error = some report

namespace Hearing

/-- The rule at the place is one for the request, is not behind the one that granted it, lets the
subject in, and breaks on its condition. -/
def Fails (hearing : Hearing) (index : Nat) (rule : Rule) : Prop :=
  rule.IsCandidate hearing.resource hearing.action ∧ hearing.decision.Tried index ∧
    rule.RolesPass hearing.subject ∧
    rule.ConditionBreaks .standard hearing.subject hearing.resource
  deriving Decidable

/-- The rules that fail, in the order of the store. -/
def failing (hearing : Hearing) : List Rule :=
  (hearing.rules.zipIdx.filter fun entry => hearing.Fails entry.2 entry.1).map Prod.fst

/-- The warning of a condition that failed. -/
def warning (hearing : Hearing) (report : Report) : LogEvent where
  logger := "permissions.condition_evaluator"
  level := .warning
  text := "Condition evaluation failed"
  fields :=
    [("subject_id", hearing.subject.id), ("resource_type", hearing.resource.type),
     ("error", report.message), ("details", report.details)]

/-- The event of the decision. -/
def verdict (hearing : Hearing) : LogEvent where
  logger := "permissions.resolver"
  level := .debug
  text := "Permission decision"
  fields :=
    [("subject_id", hearing.subject.id), ("resource_type", hearing.resource.type),
     ("resource_id", hearing.resource.id), ("action", hearing.action),
     ("allowed", .bool hearing.decision.allowed),
     ("matched_rule", matchedDocument hearing.decision.matchedRule),
     ("reason", .text hearing.decision.reason)]

/-- What the hearing leaves in the log: the warnings, and then the decision. -/
def trail (hearing : Hearing) : List LogEvent :=
  hearing.reports.map hearing.warning ++ [hearing.verdict]

/-- The decision is the one that the rules call for, and there is one report for each rule that
fails, in the order of the store. -/
structure IsSound (hearing : Hearing) : Prop where
  settles : hearing.decision.Settles hearing.rules .standard hearing.subject hearing.resource
    hearing.action
  reports : List.Forall₂ (fun rule report =>
    rule.Reports .standard hearing.subject hearing.resource report) hearing.failing hearing.reports
  errors : hearing.decision.conditionErrors = hearing.reports.length

end Hearing

/-- What a resolver does with a request. -/
def Service.hearing (service : Service) (subject : Subject) (resource : Resource)
    (action : Document) : Hearing :=
  ⟨service.resolver.store.rules, subject, resource, action,
    (service.resolver.examine subject resource action).decision,
    (service.resolver.examine subject resource action).reports⟩

/-! ### The reports of a scan -/

section

variable {evaluator : Evaluator} {subject : Subject} {resource : Resource} {action : Document}

/-- What a rule reports when it is tried is the report on its condition. -/
theorem Rule.reports_of_report? {rule : Rule} {report : Report}
    (came : (rule.attempt evaluator subject resource).report? = some report) :
    rule.Reports evaluator subject resource report := by
  unfold Rule.attempt at came
  split at came
  · split at came
    · cases came
    next condition stated =>
      refine ⟨condition, stated, ?_⟩
      split at came
      next broke outcome =>
        rw [outcome]
        exact came
      · cases came
      · cases came
  · cases came

/-- The reports of candidates are those of the ones that break, one of each. -/
theorem forall₂_reportsOf (entries : List (Nat × Rule)) :
    List.Forall₂ (fun rule report => rule.Reports evaluator subject resource report)
      ((entries.filter fun entry => entry.2.RolesPass subject ∧
        entry.2.ConditionBreaks evaluator subject resource).map Prod.snd)
      (reportsOf evaluator subject resource entries) := by
  induction entries with
  | nil => exact .nil
  | cons entry rest ih =>
      rw [List.filter_cons, reportsOf, List.filterMap_cons, ← reportsOf]
      by_cases breaks : entry.2.RolesPass subject ∧
          entry.2.ConditionBreaks evaluator subject resource
      · obtain ⟨report, came⟩ := Option.isSome_iff_exists.1 (Rule.attempt_report?_iff.2 breaks)
        rw [if_pos (decide_eq_true breaks), List.map_cons, came]
        exact .cons (Rule.reports_of_report? came) ih
      · have silent := Option.not_isSome_iff_eq_none.1 fun some =>
          breaks (Rule.attempt_report?_iff.1 some)
        rw [if_neg (by simpa using breaks), silent]
        exact ih

end

namespace Service

variable {service : Service}

/-- The rules that fail are the candidates that break, up to the one that grants the request. -/
theorem failing_hearing (coherent : service.resolver.store.Coherent) (subject : Subject)
    (resource : Resource) (action : Document) :
    (service.hearing subject resource action).failing =
      ((service.resolver.store.matching resource.type action).filter fun entry =>
        (service.hearing subject resource action).decision.Tried entry.1 ∧
          entry.2.RolesPass subject ∧
          entry.2.ConditionBreaks .standard subject resource).map Prod.snd := by
  rw [Hearing.failing, Store.matching, coherent.view_eq, List.filter_map, List.map_map,
    List.filter_filter]
  refine congrArg (List.map _) (List.filter_congr fun entry _ => ?_)
  rw [Bool.eq_iff_iff]
  simp only [Function.comp_apply, Bool.and_eq_true, decide_eq_true_iff, Rule.isFor_iff]
  exact and_comm

/-- The reports of a scan are those on the rules that fail. -/
theorem forall₂_hearing (coherent : service.resolver.store.Coherent)
    (standard : service.resolver.evaluator = .standard) (subject : Subject)
    (resource : Resource) (action : Document) :
    List.Forall₂ (fun rule report => rule.Reports .standard subject resource report)
      (service.hearing subject resource action).failing
      (service.hearing subject resource action).reports := by
  rw [failing_hearing coherent, Service.hearing, Resolver.examine, standard]
  dsimp only
  obtain ⟨before, winner, rule, after, split, -, taken, ended⟩ | ⟨-, ended⟩ :=
    scan_cases .standard subject resource (service.resolver.store.matching resource.type action)
  · have ordered := Store.matching_pairwise service.resolver.store resource.type action
    rw [ended, split]
    rw [split] at ordered
    have filtered := filter_upTo ordered fun entry =>
      entry.2.RolesPass subject ∧ entry.2.ConditionBreaks .standard subject resource
    -- The winner is not behind itself, but it passes and has nothing to report.
    have silent : ¬ (rule.RolesPass subject ∧
        rule.ConditionBreaks .standard subject resource) := by
      rw [← Rule.attempt_report?_iff, Trial.report?_of_isPassed taken]
      simp
    simp only [silent, decide_false, Bool.false_eq_true, if_false, List.append_nil] at filtered
    simp only [Decision.Tried, Decision.grant, Option.mem_some_iff, forall_eq', Bool.decide_and]
      at filtered ⊢
    rw [filtered]
    simpa only [Bool.decide_and] using forall₂_reportsOf before
  · rw [ended]
    simp only [Decision.Tried, Decision.deny, Option.not_mem_none, IsEmpty.forall_iff,
      implies_true, true_and]
    exact forall₂_reportsOf _

theorem errors_hearing (service : Service) (subject : Subject) (resource : Resource)
    (action : Document) :
    (service.hearing subject resource action).decision.conditionErrors =
      (service.hearing subject resource action).reports.length := by
  rw [Service.hearing, Resolver.examine]
  obtain ⟨_, _, _, _, -, -, -, ended⟩ | ⟨-, ended⟩ :=
    scan_cases service.resolver.evaluator subject resource
      (service.resolver.store.matching resource.type action)
  · rw [ended]
    rfl
  · rw [ended]
    rfl

/-- What a resolver with the standard evaluator does with a request is as it should be. -/
theorem hearing_isSound (coherent : service.resolver.store.Coherent)
    (standard : service.resolver.evaluator = .standard) (subject : Subject)
    (resource : Resource) (action : Document) :
    (service.hearing subject resource action).IsSound where
  settles := by
    rw [← standard]
    exact coherent.settles service.resolver.evaluator subject resource action
  reports := forall₂_hearing coherent standard subject resource action
  errors := service.errors_hearing subject resource action

end Service

/-! ### The trail -/

namespace Engine

variable {service : Service}

/-- The notices of a decision are written to the log as its trail. -/
theorem filterMap_noticesOf (standard : service.resolver.evaluator = .standard)
    (subject : Subject) (resource : Resource) (action : Document) :
    (service.resolver.noticesOf subject resource action
        (service.resolver.examine subject resource action)).filterMap Notice.event? =
      (service.hearing subject resource action).trail := by
  rw [Resolver.noticesOf, List.filterMap_append, List.filterMap_map, standard, Hearing.trail,
    ← List.filterMap_eq_map]
  rfl

theorem decide_events (engine : Engine) (standard : service.resolver.evaluator = .standard)
    (subject : Subject) (resource : Resource) (action : Document) :
    (engine.decide service subject resource action).2.events =
      engine.events ++ (service.hearing subject resource action).trail := by
  rw [decide, tellAll_events, filterMap_noticesOf standard]

theorem grantedAmong_events (engine : Engine) (standard : service.resolver.evaluator = .standard)
    (subject : Subject) (resource : Resource) (actions : List String) :
    (engine.grantedAmong service subject resource actions).2.events =
      engine.events ++ (actions.map fun action =>
        service.hearing subject resource (.text action)).flatMap Hearing.trail := by
  induction actions generalizing engine with
  | nil => simp [grantedAmong]
  | cons action rest ih =>
      rw [List.map_cons, List.flatMap_cons, ← List.append_assoc,
        ← engine.decide_events standard subject resource (.text action)]
      exact ih _

theorem allowedActions_events (engine : Engine)
    (standard : service.resolver.evaluator = .standard) (subject : Subject)
    (resource : Resource) :
    (engine.allowedActions service subject resource).2.events =
      engine.events ++ ((service.resolver.actionsFor resource.type).map fun action =>
        service.hearing subject resource (.text action)).flatMap Hearing.trail :=
  engine.grantedAmong_events standard subject resource _

end Engine

/-- A listing changes no resolver. -/
theorem Engine.grantedAmong_services (engine : Engine) (service : Service) (subject : Subject)
    (resource : Resource) (actions : List String) :
    (engine.grantedAmong service subject resource actions).2.services = engine.services := by
  induction actions generalizing engine with
  | nil => rfl
  | cons action rest ih => exact (ih _).trans (tellAll_services ..)

/-- A trail consists of events of the audit. -/
theorem Hearing.audit_trail (hearing : Hearing) (event : LogEvent) (among : event ∈ hearing.trail) :
    event.text = "Permission decision" ∨ event.text = "Condition evaluation failed" := by
  obtain warned | last := List.mem_append.1 among
  · obtain ⟨report, -, rfl⟩ := List.mem_map.1 warned
    exact Or.inr rfl
  · obtain rfl := List.mem_singleton.1 last
    exact Or.inl rfl

end AccessRules
