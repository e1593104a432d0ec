import AccessRules.Notice
import AccessRules.Proofs.Resolver.Scan

/-!
# What counters account for

Counters are read off notices: one notice of each condition that failed, and one when the request
is decided. Here they are set against the decisions themselves. A `Ruling` is a decision that was
made, on what and counted where; `Metrics.Accounts` says that counters grew by some rulings and by
nothing else. Accounts of one stretch and of the next add up (`Accounts.trans`), notices that are
about something else change none (`Accounts.of_unruled`), and the notices of a decision account for
exactly that one (`accounts_noticesOf`).
-/

namespace AccessRules

/-! ### Tallies -/

namespace Tally

variable {α : Type} [BEq α] [LawfulBEq α] [DecidableEq α]

/-- A label that is counted once more has one more; the others have as many as before. -/
theorem count_bump (tally : Tally α) (label other : α) :
    (tally.bump label).count other = tally.count other + if label = other then 1 else 0 := by
  induction tally with
  | nil => simp [bump, count]
  | cons entry rest ih =>
      obtain ⟨first, times⟩ := entry
      by_cases here : first = label
      · subst here
        by_cases asked : first = other <;> simp [bump, count, asked]
      · by_cases asked : first = other
        · subst asked
          simp [bump, count, here, Ne.symm here]
        · simp [bump, count, here, asked, ih]

omit [LawfulBEq α] [DecidableEq α] in
@[simp] theorem total_bump (tally : Tally α) (label : α) :
    (tally.bump label).total = tally.total + 1 := by
  induction tally with
  | nil => rfl
  | cons entry rest ih =>
      obtain ⟨first, times⟩ := entry
      rw [bump]
      split
      · simp [total]; omega
      · simp only [total, List.foldr_cons] at ih ⊢
        omega

end Tally

/-! ### Rulings -/

/-- A decision that was made: what it was on, and the registry that it is counted in, if any. -/
structure Ruling where
  collector : Option String
  type : Document
  action : Document
  decision : Decision
  deriving Repr

/-- What a ruling is counted by. -/
def Ruling.label (ruling : Ruling) : DecisionLabel :=
  ⟨labelText ruling.type, labelText ruling.action, ruling.decision.allowed⟩

namespace Ruling

/-- How many of the rulings have the label. -/
def count (rulings : List Ruling) (label : DecisionLabel) : Nat :=
  rulings.countP fun ruling => ruling.label = label

/-- How many conditions failed to evaluate, by the rulings on a type. -/
def errors (rulings : List Ruling) (type : String) : Nat :=
  rulings.foldr (fun ruling others =>
    (if labelText ruling.type = type then ruling.decision.conditionErrors else 0) + others) 0

/-- The rulings that are counted in a registry. -/
def countedIn (registry : String) (rulings : List Ruling) : List Ruling :=
  rulings.filter fun ruling => ruling.collector = some registry

@[simp] theorem count_append (earlier later : List Ruling) (label : DecisionLabel) :
    count (earlier ++ later) label = count earlier label + count later label :=
  List.countP_append

@[simp] theorem errors_append (earlier later : List Ruling) (type : String) :
    errors (earlier ++ later) type = errors earlier type + errors later type := by
  induction earlier with
  | nil => simp [errors]
  | cons ruling rest ih =>
      simp only [errors, List.cons_append, List.foldr_cons] at ih ⊢
      rw [ih, Nat.add_assoc]

@[simp] theorem countedIn_append (registry : String) (earlier later : List Ruling) :
    countedIn registry (earlier ++ later) =
      countedIn registry earlier ++ countedIn registry later :=
  List.filter_append ..

end Ruling

namespace Metrics

/-! ### Accounts -/

/-- The counters grew by the rulings, and by nothing else. -/
structure Accounts (before after : Metrics) (rulings : List Ruling) : Prop where
  decisions : ∀ label, after.decisions.count label =
    before.decisions.count label + Ruling.count rulings label
  total : after.decisions.total = before.decisions.total + rulings.length
  durations : after.durations = before.durations + rulings.length
  errors : ∀ type, after.conditionErrors.count type =
    before.conditionErrors.count type + Ruling.errors rulings type

variable {before between after : Metrics} {earlier later : List Ruling}

theorem Accounts.refl (metrics : Metrics) : metrics.Accounts metrics [] where
  decisions _ := rfl
  total := rfl
  durations := rfl
  errors _ := rfl

/-- Rulings of one stretch and of the next add up. -/
theorem Accounts.trans (first : before.Accounts between earlier)
    (second : between.Accounts after later) : before.Accounts after (earlier ++ later) where
  decisions label := by
    rw [second.decisions, first.decisions, Ruling.count_append, Nat.add_assoc]
  total := by rw [second.total, first.total, List.length_append, Nat.add_assoc]
  durations := by rw [second.durations, first.durations, List.length_append, Nat.add_assoc]
  errors type := by rw [second.errors, first.errors, Ruling.errors_append, Nat.add_assoc]

end Metrics

/-! ### Notices -/

/-- The notice is of a decision, or of a condition that failed on the way to one. -/
def Notice.IsRuled : Notice → Prop
  | .conditionFailed .. | .decided .. => True
  | _ => False

/-- Notices about anything else leave these counters as they are. -/
theorem Metrics.Accounts.of_unruled {notice : Notice} (unruled : ¬ notice.IsRuled)
    (metrics : Metrics) : metrics.Accounts (metrics.observe notice) [] := by
  cases notice with
  | conditionFailed => exact absurd trivial unruled
  | decided => exact absurd trivial unruled
  | _ => exact ⟨fun _ => rfl, rfl, rfl, fun _ => rfl⟩

/-- Conditions that failed are counted by the type of the resource, and nothing else is. -/
theorem Metrics.foldl_observe_conditionFailed (metrics : Metrics) (subject : Subject)
    (resource : Resource) (announced : Bool) (reports : List Report) :
    let after := (reports.map fun report =>
      Notice.conditionFailed subject resource report announced).foldl Metrics.observe metrics
    after.decisions = metrics.decisions ∧ after.durations = metrics.durations ∧
      ∀ type, after.conditionErrors.count type = metrics.conditionErrors.count type +
        if labelText resource.type = type then reports.length else 0 := by
  induction reports generalizing metrics with
  | nil => simp
  | cons report rest ih =>
      -- The first report is counted, and the others by the induction on what it leaves.
      obtain ⟨decisions, durations, errors⟩ := ih (metrics.recordConditionError resource.type)
      refine ⟨decisions, durations, fun type => (errors type).trans ?_⟩
      rw [recordConditionError, Tally.count_bump]
      split
      · simp only [List.length_cons]
        omega
      · rfl

/-- There are as many reports of conditions as the decision counts. -/
theorem Resolver.length_reports_examine (resolver : Resolver) (subject : Subject)
    (resource : Resource) (action : Document) :
    (resolver.examine subject resource action).reports.length =
      (resolver.decide subject resource action).conditionErrors := by
  rw [decide, examine]
  obtain ⟨before, index, rule, after, -, -, -, scanned⟩ | ⟨-, scanned⟩ :=
    scan_cases resolver.evaluator subject resource (resolver.store.matching resource.type action)
  · rw [scanned]; rfl
  · rw [scanned]; rfl

/-- The notices of a decision account for that decision. -/
theorem Metrics.accounts_noticesOf (metrics : Metrics) (resolver : Resolver)
    (collector : Option String) (subject : Subject) (resource : Resource) (action : Document) :
    metrics.Accounts
      ((resolver.noticesOf subject resource action
        (resolver.examine subject resource action)).foldl Metrics.observe metrics)
      [⟨collector, resource.type, action, resolver.decide subject resource action⟩] := by
  obtain ⟨decisions, durations, errors⟩ := metrics.foldl_observe_conditionFailed subject resource
    resolver.evaluator.announces (resolver.examine subject resource action).reports
  rw [Resolver.noticesOf, List.foldl_append, List.foldl_cons, List.foldl_nil, observe,
    recordDecision]
  constructor
  case decisions =>
    intro label
    simp only [decisions, Tally.count_bump, Ruling.count, List.countP_singleton,
      decide_eq_true_iff]
    rfl
  case total => simp [decisions]
  case durations => simp [durations]
  case errors =>
    intro type
    simp only [errors, resolver.length_reports_examine]
    by_cases same : labelText resource.type = type <;> simp [Ruling.errors, same]

end AccessRules
