import AccessRules.Document.Written

/-!
# Metrics

Counters of decisions, of conditions that failed and of loads, and the number of rules that the
latest resolver holds. Counters appear with the first event that they count.

* `Metrics.recordDecision`, `recordConditionError`, `recordLoad` — what is counted;
* `Metrics.samples` — the readings of all counters.
-/

namespace AccessRules

/-- How often each of some labels was counted, in the order of their first appearance. -/
abbrev Tally (α : Type) := List (α × Nat)

namespace Tally

variable {α : Type} [BEq α]

/-- How often a label was counted. -/
def count (label : α) : Tally α → Nat
  | [] => 0
  | (other, n) :: rest => if other == label then n else count label rest

/-- Count a label once more. -/
def bump (label : α) : Tally α → Tally α
  | [] => [(label, 1)]
  | (other, n) :: rest =>
      if other == label then (other, n + 1) :: rest else (other, n) :: bump label rest

/-- How often labels were counted altogether. -/
def total (tally : Tally α) : Nat := tally.foldr (fun entry others => entry.2 + others) 0

end Tally

/-- What decisions are counted by. -/
structure DecisionLabel where
  type : String
  action : String
  allowed : Bool
  deriving DecidableEq, Repr

/-- How a load of rules ended, in the words of whoever counts it. -/
abbrev LoadStatus := String

/-- The counters of a service. -/
structure Metrics where
  service : String
  decisions : Tally DecisionLabel
  /-- How many durations of decisions were measured. -/
  durations : Nat
  conditionErrors : Tally String
  loads : Tally LoadStatus
  rulesLoaded : Int
  deriving DecidableEq, Repr

/-- The text of a label. -/
def labelText (document : Document) : String :=
  match document.written with
  | .ok text => text
  | .error fault => fault.message

/-- A text is its own label, guarded or not. -/
theorem labelText_of_text? {document : Document} {text : String}
    (isText : document.text? = some text) : labelText document = text := by
  cases document <;> cases isText <;> rfl

namespace Metrics

/-- The service that counts when nothing else is said. -/
def defaultService : String := "permissions"

/-- Nothing was counted yet. -/
def ofService (service : String) : Metrics := ⟨service, [], 0, [], [], 0⟩

/-- Count a decision. -/
def recordDecision (metrics : Metrics) (type action : Document) (allowed : Bool) : Metrics :=
  { metrics with
    decisions := metrics.decisions.bump ⟨labelText type, labelText action, allowed⟩
    durations := metrics.durations + 1 }

/-- Count a condition that failed. -/
def recordConditionError (metrics : Metrics) (type : Document) : Metrics :=
  { metrics with conditionErrors := metrics.conditionErrors.bump (labelText type) }

/-- Count a load, and keep the number of its rules when it is given. -/
def recordLoad (metrics : Metrics) (status : LoadStatus) (rules : Option Int) : Metrics :=
  { metrics with
    loads := metrics.loads.bump status
    rulesLoaded := rules.getD metrics.rulesLoaded }

/-- A reading: the name of a counter, its labels and its value. -/
structure Sample where
  name : String
  labels : List (String × String)
  value : Int
  deriving DecidableEq, Repr

/-- The readings of all counters. -/
def samples (metrics : Metrics) : List Sample :=
  (metrics.decisions.map fun (label, n) =>
    ⟨"permission_decisions_total",
      [("resource_type", label.type), ("action", label.action),
       ("outcome", if label.allowed then "allow" else "deny")], n⟩) ++
  [⟨"permission_decision_duration_seconds_count", [], metrics.durations⟩] ++
  (metrics.conditionErrors.map fun (type, n) =>
    ⟨"condition_errors_total", [("resource_type", type)], n⟩) ++
  (metrics.loads.map fun (status, n) => ⟨"rule_loads_total", [("status", status)], n⟩) ++
  [⟨"rules_loaded", [], metrics.rulesLoaded⟩]

/-- The kinds of the metrics, by name. -/
def kindOf? (name : String) : Option String :=
  [("permission_decisions_total", "Counter"),
   ("permission_decision_duration_seconds", "Histogram"),
   ("condition_errors_total", "Counter"), ("rule_loads_total", "Counter"),
   ("rules_loaded", "Gauge")].lookup name

end Metrics

end AccessRules
