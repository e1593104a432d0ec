import AccessRules.Resolver

/-!
# Trying the candidates of a request

`scan` tries candidates until one passes and counts on the way. Here the loop is taken apart once:
`scan_append` walks past candidates that do not pass, whatever was counted before, `scan_of_taken`
stops at the first one that does, and `scan_cases` says from both all that a scan can come to.
Nothing else unfolds `scan`.

What a single candidate comes to is said in terms of its roles and its condition
(`Rule.attempt_cases`).
-/

namespace AccessRules

/-! ### One candidate -/

/-- The rule asks for no role, or for one that the subject holds. -/
def Rule.RolesPass (rule : Rule) (subject : Subject) : Prop :=
  ∀ roles ∈ rule.allowedRoles, ∃ role ∈ roles, ∃ held ∈ subject.roles, held.text? = some role
  deriving Decidable

/-- The rule has no condition, or one that evaluates without an error and is satisfied. -/
def Rule.ConditionPasses (rule : Rule) (evaluator : Evaluator) (subject : Subject)
    (resource : Resource) : Prop :=
  ∀ condition ∈ rule.condition, (evaluator.outcome condition subject resource).isOk = true ∧
    (evaluator.outcome condition subject resource).satisfied = true
  deriving Decidable

/-- The rule has a condition whose outcome has an error. -/
def Rule.ConditionBreaks (rule : Rule) (evaluator : Evaluator) (subject : Subject)
    (resource : Resource) : Prop :=
  ∃ condition ∈ rule.condition, (evaluator.outcome condition subject resource).isOk = false
  deriving Decidable

namespace Trial

/-- Did the candidate pass? -/
def isPassed : Trial → Bool
  | .passed => true
  | _ => false

/-- The report of a condition that failed to evaluate. -/
def report? : Trial → Option Report
  | .broke report => some report
  | _ => none

end Trial

variable {evaluator : Evaluator} {subject : Subject} {resource : Resource}

/-- A candidate whose roles keep the subject out fails, whatever its condition is. -/
theorem Rule.attempt_of_not_rolesPass {rule : Rule} (keptOut : ¬ rule.RolesPass subject) :
    rule.attempt evaluator subject resource = .failed := by
  have refused : rule.admits subject = false :=
    Bool.eq_false_iff.2 fun admitted => keptOut (Rule.admits_iff.1 admitted)
  simp [Rule.attempt, refused]

/-- A condition that evaluates with an error does not pass, satisfied or not. -/
theorem Rule.ConditionBreaks.not_passes {rule : Rule}
    (breaks : rule.ConditionBreaks evaluator subject resource) :
    ¬ rule.ConditionPasses evaluator subject resource := by
  intro passes
  obtain ⟨condition, stated, broken⟩ := breaks
  obtain ⟨whole, -⟩ := passes condition stated
  rw [broken] at whole
  contradiction

/-- All that trying a rule can come to, by its roles and its condition. -/
theorem Rule.attempt_cases (rule : Rule) (evaluator : Evaluator) (subject : Subject)
    (resource : Resource) :
    (rule.attempt evaluator subject resource = .passed ∧
      rule.RolesPass subject ∧ rule.ConditionPasses evaluator subject resource) ∨
    (rule.attempt evaluator subject resource = .failed ∧
      ¬ (rule.RolesPass subject ∧ rule.ConditionPasses evaluator subject resource) ∧
      ¬ (rule.RolesPass subject ∧ rule.ConditionBreaks evaluator subject resource)) ∨
    (∃ report, rule.attempt evaluator subject resource = .broke report ∧
      rule.RolesPass subject ∧ rule.ConditionBreaks evaluator subject resource) := by
  by_cases roles : rule.RolesPass subject
  · have admitted : rule.admits subject = true := Rule.admits_iff.2 roles
    cases stated : rule.condition with
    | none => simp [Rule.attempt, admitted, stated, roles, Rule.ConditionPasses]
    | some condition =>
        -- Four outcomes: an error goes first, whether the condition is satisfied or not.
        rcases came : evaluator.outcome condition subject resource with ⟨satisfied, error⟩
        cases error <;> cases satisfied <;>
          simp [Rule.attempt, admitted, stated, came, roles, Rule.ConditionPasses,
            Rule.ConditionBreaks, Outcome.isOk]
  · exact Or.inr (Or.inl ⟨Rule.attempt_of_not_rolesPass roles, fun both => roles both.1,
      fun both => roles both.1⟩)

theorem Rule.attempt_isPassed_iff {rule : Rule} :
    (rule.attempt evaluator subject resource).isPassed = true ↔
      rule.RolesPass subject ∧ rule.ConditionPasses evaluator subject resource := by
  obtain ⟨came, passes⟩ | ⟨came, fails, -⟩ | ⟨report, came, -, breaks⟩ :=
    rule.attempt_cases evaluator subject resource
  · simp [came, Trial.isPassed, passes]
  · simp [came, Trial.isPassed, fails]
  · simp [came, Trial.isPassed, breaks.not_passes]

theorem Rule.attempt_report?_iff {rule : Rule} :
    (rule.attempt evaluator subject resource).report?.isSome = true ↔
      rule.RolesPass subject ∧ rule.ConditionBreaks evaluator subject resource := by
  obtain ⟨came, -, passes⟩ | ⟨came, -, whole⟩ | ⟨report, came, breaks⟩ :=
    rule.attempt_cases evaluator subject resource
  · have whole : ¬ rule.ConditionBreaks evaluator subject resource := fun breaks =>
      breaks.not_passes passes
    simp [came, Trial.report?, whole]
  · simp [came, Trial.report?, whole]
  · simp [came, Trial.report?, breaks]

/-- A candidate that passes has nothing to report. -/
theorem Trial.report?_of_isPassed {trial : Trial} (passed : trial.isPassed = true) :
    trial.report? = none := by
  cases trial with
  | passed => rfl
  | failed => cases passed
  | broke report => cases passed

/-! ### Many candidates -/

/-- The reports of the candidates whose conditions failed to evaluate, in order. -/
def reportsOf (evaluator : Evaluator) (subject : Subject) (resource : Resource)
    (entries : List (Nat × Rule)) : List Report :=
  entries.filterMap fun entry => (entry.2.attempt evaluator subject resource).report?

/-- Candidates that do not pass are counted and their reports kept; the scan goes on behind them. -/
theorem scan_append {before : List (Nat × Rule)}
    (untaken : ∀ entry ∈ before, (entry.2.attempt evaluator subject resource).isPassed = false)
    (evaluated : Nat) (reports : List Report) (rest : List (Nat × Rule)) :
    scan evaluator subject resource evaluated reports (before ++ rest) =
      scan evaluator subject resource (evaluated + before.length)
        ((reportsOf evaluator subject resource before).reverse ++ reports) rest := by
  induction before generalizing evaluated reports with
  | nil => rfl
  | cons entry others ih =>
      obtain ⟨index, rule⟩ := entry
      have later := ih fun entry among => untaken entry (List.mem_cons_of_mem _ among)
      have first := untaken (index, rule) List.mem_cons_self
      have counted : evaluated + (others.length + 1) = evaluated + 1 + others.length := by omega
      cases came : rule.attempt evaluator subject resource with
      | passed => simp [came, Trial.isPassed] at first
      | failed =>
          simp [scan, reportsOf, came, Trial.report?, later, counted]
      | broke report =>
          simp [scan, reportsOf, came, Trial.report?, later, counted]

/-- The first candidate that passes grants, whatever stands behind it. -/
theorem scan_of_taken {before : List (Nat × Rule)} {index : Nat} {rule : Rule}
    (untaken : ∀ entry ∈ before, (entry.2.attempt evaluator subject resource).isPassed = false)
    (taken : (rule.attempt evaluator subject resource).isPassed = true)
    (after : List (Nat × Rule)) :
    scan evaluator subject resource 0 [] (before ++ (index, rule) :: after) =
      ⟨.grant index rule (before.length + 1)
        (reportsOf evaluator subject resource before).length,
        reportsOf evaluator subject resource before⟩ := by
  rw [scan_append untaken]
  cases came : rule.attempt evaluator subject resource with
  | passed => simp [scan, came]
  | failed => simp [came, Trial.isPassed] at taken
  | broke report => simp [came, Trial.isPassed] at taken

/-- All that a scan can come to: the first candidate that passes grants, with those before it
counted; if there is none, the request is denied with all of them counted. -/
theorem scan_cases (evaluator : Evaluator) (subject : Subject) (resource : Resource)
    (entries : List (Nat × Rule)) :
    (∃ before index rule after, entries = before ++ (index, rule) :: after ∧
      (∀ entry ∈ before, (entry.2.attempt evaluator subject resource).isPassed = false) ∧
      (rule.attempt evaluator subject resource).isPassed = true ∧
      scan evaluator subject resource 0 [] entries =
        ⟨.grant index rule (before.length + 1)
          (reportsOf evaluator subject resource before).length,
          reportsOf evaluator subject resource before⟩) ∨
    ((∀ entry ∈ entries, (entry.2.attempt evaluator subject resource).isPassed = false) ∧
      scan evaluator subject resource 0 [] entries =
        ⟨.deny entries.length (reportsOf evaluator subject resource entries).length,
          reportsOf evaluator subject resource entries⟩) := by
  cases found : entries.find? fun entry =>
      (entry.2.attempt evaluator subject resource).isPassed with
  | none =>
      have untaken : ∀ entry ∈ entries,
          (entry.2.attempt evaluator subject resource).isPassed = false := fun entry among =>
        Bool.eq_false_iff.2 (List.find?_eq_none.1 found entry among)
      refine Or.inr ⟨untaken, ?_⟩
      have walked := scan_append untaken 0 [] []
      rw [List.append_nil] at walked
      rw [walked]
      simp [scan]
  | some entry =>
      obtain ⟨index, rule⟩ := entry
      obtain ⟨taken, before, after, split, earlier⟩ := List.find?_eq_some_iff_append.1 found
      have untaken : ∀ entry ∈ before,
          (entry.2.attempt evaluator subject resource).isPassed = false := fun entry among => by
        simpa using earlier entry among
      refine Or.inl ⟨before, index, rule, after, split, untaken, taken, ?_⟩
      rw [split, scan_of_taken untaken taken]

end AccessRules
