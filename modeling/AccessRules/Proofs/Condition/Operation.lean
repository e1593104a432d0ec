import AccessRules.Condition.Outcome
import AccessRules.Proofs.Condition.Guarded
import Mathlib.Data.List.Forall2

/-!
# Conditions that apply one operator

What a function makes of operands that have values, and what the outcome is of a condition that
has a value. The operands that conditions of access hold against others are the value of a path
(`valueAt`) and constants.
-/

namespace AccessRules.Condition

/-- The condition that gives the value of a path. -/
def valueAt (path : String) : Document := .object [(.text "var", .text path)]

/-- The condition that applies an operator to operands. -/
def operation (name : String) (operands : List Document) : Document :=
  .object [(.text name, .array operands)]

/-! ### Operands -/

theorem meaning_number {n : Document} (number : isNumber n = true) (data : Document) :
    meaning n data = .ok n := by
  cases n with
  | int value => simp [meaning]
  | float value => simp [meaning]
  | _ => cases number

theorem meaning_text (value : String) (data : Document) :
    meaning (.text value) data = .ok (.text value) := by
  simp [meaning]

theorem values_cons (data first : Document) (rest : List Document) :
    values data ((first :: rest).map operand) = (do
      let value ← meaning first data
      return value :: (← values data (rest.map operand))) := rfl

/-! ### Operators -/

section

variable {name : String} {data : Document}

/-- What a choice makes of its operands. -/
theorem meaning_choice {choice : Choice} (named : Operator.ofName? name = some (.choice choice))
    (whole : data.isTrue = true) (operands : List Document) :
    meaning (operation name operands) data = choice.apply data (operands.map operand) := by
  rw [operation, meaning_operator, applyNamed, Document.orElse, if_pos whole, named]
  rfl

/-- What a function makes of its operands. -/
theorem meaning_function {function : Function}
    (named : Operator.ofName? name = some (.function function)) (whole : data.isTrue = true)
    (operands : List Document) :
    meaning (operation name operands) data =
      (values data (operands.map operand)).bind (function.apply data) := by
  rw [operation, meaning_operator, applyNamed, Document.orElse, if_pos whole, named]
  rfl

/-- What a function makes of one operand. -/
theorem meaning_function_one {name : String} {function : Function}
    (named : Operator.ofName? name = some (.function function)) (whole : data.isTrue = true)
    (inner : Document) :
    meaning (operation name [inner]) data =
      (meaning inner data).bind fun value => function.apply data [value] := by
  rw [meaning_function named whole, values_cons]
  cases meaning inner data <;> rfl

/-- What a function makes of operands that have values. -/
theorem meaning_operation {function : Function}
    (named : Operator.ofName? name = some (.function function)) (whole : data.isTrue = true)
    {operands found : List Document}
    (same : List.Forall₂ (fun operand value => meaning operand data = .ok value) operands found) :
    meaning (operation name operands) data = function.apply data found := by
  have gathered : values data (operands.map operand) = .ok found := by
    induction same with
    | nil => rfl
    | @cons first value rest values meant _ ih =>
        rw [values_cons, meant, ih]
        rfl
  rw [meaning_function named whole, gathered]
  rfl

/-- What a variable comes to: its value, or nothing when it has none. -/
theorem meaning_valueAt_eq (whole : data.isTrue = true) (path : String) :
    meaning (valueAt path) data =
      (variableIn? data (.text path)).map fun found => found.getD .null := by
  have named : Operator.ofName? "var" = some (.function .var) := rfl
  have single : meaning (valueAt path) data = meaning (operation "var" [.text path]) data := by
    rw [valueAt, operation, meaning_operator, meaning_operator]
    rfl
  rw [single, meaning_operation named whole (.cons (meaning_text path data) .nil)]
  show lookUp data (.text path) .null = _
  rw [lookUp]
  cases variableIn? data (.text path) <;> rfl

theorem meaning_valueAt {path : String} {value : Document} (whole : data.isTrue = true)
    (found : variableIn? data (.text path) = .ok (some value)) :
    meaning (valueAt path) data = .ok value := by
  rw [meaning_valueAt_eq whole, found]
  rfl

end

/-! ### Outcomes -/

theorem isTrue_given (subject : Subject) (resource : Resource) :
    (context subject resource).isTrue = true := rfl

theorem isTrue_context (subject : Subject) (resource : Resource) :
    (context subject resource).guarding.isTrue = true := by
  simp [context, Document.record, Document.guarding, Document.guardingMembers, Document.isTrue]

/-- A path that leads somewhere in a request leads to the guarded form of that in the data that
conditions are evaluated over. -/
theorem variableIn?_context {subject : Subject} {resource : Resource} {path : String}
    {reached : Document}
    (found : variableIn? (context subject resource) (.text path) = .ok (some reached)) :
    variableIn? (context subject resource).guarding (.text path) =
      .ok (some reached.guarding) := by
  rw [variableIn?_guarding, found]
  rfl

/-- Guarding keeps texts. -/
theorem text?_guarding (document : Document) : document.guarding.text? = document.text? := by
  cases document with
  | text value =>
      rw [Numeral.guarding_text]
      split <;> rfl
  | _ => rfl

/-- A numeral with an underscore is guarded. -/
theorem guarding_underscored : (Document.text "1_000").guarding = .guarded "1_000" :=
  (Numeral.guarding_text_iff "1_000").2 (by decide)

/-- The outcome of a condition that applies an operator. -/
theorem outcome_of_isOperation {condition : Document} (formed : isOperation condition = true)
    (subject : Subject) (resource : Resource) :
    outcome condition subject resource =
      match meaning condition (context subject resource).guarding with
      | .ok value => ⟨value.isTrue, none⟩
      | .error fault => ⟨false, some (failed fault)⟩ := by
  unfold outcome
  split
  · cases formed
  · exact if_pos formed

end AccessRules.Condition
