import AccessRules.Proofs.Condition.Operation
import AccessRules.Proofs.Resolver.Listing

/-!
# Equality of texts over guarded data

A condition may ask whether the value of a path is a certain text. `==` and `!=` hold the texts
against each other; `===` and `!==` ask for the same kind as well. In guarded data a guarded text is
of a kind of its own, whereas a text that stands in a condition is never guarded.

* `Equation`: the four operators, and what each says of two texts (`Equation.Holds`);
* `Equation.Asks`: the conditions that hold the value of a path against a text, on either side;
* **`equation_seen_through_iff`**: guarding does not show in what these conditions come to, but for
  one case: a strict operator takes a guarded text for another one than the same text.
-/

namespace AccessRules.Condition

/-- An operator that asks whether two values are equal. -/
structure Equation where
  /-- Does it look at the kinds of the values? -/
  strict : Bool
  /-- Does it ask whether they differ? -/
  negated : Bool

namespace Equation

/-- The name of the operator. -/
def name : Equation → String
  | ⟨false, false⟩ => "=="
  | ⟨false, true⟩ => "!="
  | ⟨true, false⟩ => "==="
  | ⟨true, true⟩ => "!=="

/-- Is it so, what the operator says of two texts? -/
def Holds (equation : Equation) (s t : String) : Prop :=
  if equation.negated then s ≠ t else s = t

/-- The conditions that hold the value of a path against a text. -/
inductive Asks (equation : Equation) (path t : String) : Document → Prop where
  | left : Asks equation path t (operation equation.name [valueAt path, .text t])
  | right : Asks equation path t (operation equation.name [.text t, valueAt path])

theorem Asks.isOperation {equation : Equation} {path t : String} {condition : Document}
    (asks : equation.Asks path t condition) : isOperation condition = true := by
  cases asks <;> rfl

end Equation

/-! ### Comparing texts -/

section

variable {a b : Document} {s t : String}

theorem equal_of_text? (left : a.text? = some s) (right : b.text? = some t) :
    a.equal b = (s == t) := by
  cases a <;> cases left <;> cases b <;> cases right <;> rfl

theorem looselyEqual_of_text? (left : a.text? = some s) (right : b.text? = some t) :
    looselyEqual a b = .ok (s == t) := by
  have either : (isText a || isText b) = true := by simp [isText, left]
  rw [looselyEqual, if_pos either, Document.written_of_text? left,
    Document.written_of_text? right]
  rfl

/-- Two texts are strictly equal when they are the same and both guarded, or neither. -/
theorem strictlyEqual_of_text? (left : a.text? = some s) (right : b.text? = some t) :
    strictlyEqual a b = (a.kind == b.kind && s == t) := by
  have number : isNumber a = false := by
    cases a with
    | int value => cases left
    | float value => cases left
    | _ => rfl
  rw [strictlyEqual, number, Bool.false_and, Bool.or_false, equal_of_text? left right]
  cases a.kind == b.kind <;> rfl

end

/-! ### Evaluating -/

namespace Equation

variable {equation : Equation} {path s t : String} {condition data value : Document}

/-- May the operator take the texts for the same? A strict one wants them of the same kind. -/
def admits (equation : Equation) (a b : Document) : Bool := !equation.strict || a.kind == b.kind

/-- What the operator says of two texts. -/
def verdict (equation : Equation) (a b : Document) (s t : String) : Bool :=
  (equation.admits a b && s == t) != equation.negated

theorem verdict_comm (equation : Equation) (a b : Document) (s t : String) :
    equation.verdict a b s t = equation.verdict b a t s := by
  rw [verdict, verdict, admits, admits, BEq.comm (a := a.kind), BEq.comm (a := s)]

/-- The function of the operator. -/
def function : Equation → Function
  | ⟨false, false⟩ => .equal
  | ⟨false, true⟩ => .unequal
  | ⟨true, false⟩ => .same
  | ⟨true, true⟩ => .different

theorem ofName?_name (equation : Equation) :
    Operator.ofName? equation.name = some (.function equation.function) := by
  obtain ⟨strict, negated⟩ := equation
  cases strict <;> cases negated <;> rfl

/-- What the function of the operator makes of two texts. -/
theorem apply_function (equation : Equation) (data : Document) {a b : Document}
    (left : a.text? = some s) (right : b.text? = some t) :
    equation.function.apply data [a, b] = .ok (.bool (equation.verdict a b s t)) := by
  obtain ⟨strict, negated⟩ := equation
  cases strict with
  | false =>
      have loose := looselyEqual_of_text? left right
      cases negated <;> simp [function, Function.apply, loose, verdict, admits, Except.map]
  | true =>
      have strict := strictlyEqual_of_text? left right
      cases negated <;> simp [function, Function.apply, strict, verdict, admits]

/-- What the operator says of a text and one that is not guarded is so, unless it is strict and
the first one is the other one guarded. -/
theorem verdict_iff (equation : Equation) (t : String) (isText : value.text? = some s) :
    equation.verdict value (.text t) s t = true ↔
      (equation.Holds s t ↔ ¬ (equation.strict = true ∧ value = .guarded t)) := by
  obtain ⟨strict, negated⟩ := equation
  cases value with
  | text value =>
      cases isText
      cases strict <;> cases negated <;> simp [verdict, admits, Holds, Document.kind]
  | guarded value =>
      cases isText
      cases strict <;> cases negated <;> simp [verdict, admits, Holds, Document.kind]
  | _ => cases isText

/-- What the conditions come to over data in which the path leads to a text. -/
theorem Asks.meaning_eq (asks : equation.Asks path t condition) (whole : data.isTrue = true)
    (found : variableIn? data (.text path) = .ok (some value)) (isText : value.text? = some s) :
    meaning condition data = .ok (.bool (equation.verdict value (.text t) s t)) := by
  have named := equation.ofName?_name
  have reached := meaning_valueAt whole found
  have constant := meaning_text t data
  cases asks with
  | left =>
      rw [meaning_operation named whole (.cons reached (.cons constant .nil))]
      exact equation.apply_function data isText rfl
  | right =>
      rw [meaning_operation named whole (.cons constant (.cons reached .nil)), verdict_comm]
      exact equation.apply_function data rfl isText

/-- What the conditions come to for a request in which the path leads to a text. -/
theorem Asks.outcome_eq {subject : Subject} {resource : Resource}
    (asks : equation.Asks path t condition)
    (found : variableIn? (context subject resource) (.text path) = .ok (some value))
    (isText : value.text? = some s) :
    outcome condition subject resource =
      ⟨equation.verdict value.guarding (.text t) s t, none⟩ := by
  rw [outcome_of_isOperation asks.isOperation, asks.meaning_eq (isTrue_context subject resource)
    (variableIn?_context found) ((text?_guarding _).trans isText)]
  rfl

end Equation

/-- **Equality of texts sees through guards, strict equality excepted.** When a path leads to a
text, wherever in the request it stands, each condition that holds the value of the path against a
text comes to a truth value, without an error. This says how the two texts compare, except when the
operator is strict and they are the same text, which is guarded; and it is what the condition comes
to over the data as given, with the same exception for a text that was not guarded in these. -/
theorem equation_seen_through_iff {subject : Subject} {resource : Resource} {path s t : String}
    {reached condition : Document} {equation : Equation}
    (found : variableIn? (context subject resource) (.text path) = .ok (some reached))
    (isText : reached.text? = some s) (asks : equation.Asks path t condition) :
    (outcome condition subject resource).error = none ∧
      (((outcome condition subject resource).satisfied = true ↔ equation.Holds s t) ↔
        ¬ (equation.strict = true ∧ reached.guarding = .guarded t)) ∧
      (meaning condition (context subject resource) =
          .ok (.bool (outcome condition subject resource).satisfied) ↔
        ¬ (equation.strict = true ∧ reached.guarding = .guarded t ∧ reached ≠ .guarded t)) := by
  have said := equation.verdict_iff t ((text?_guarding _).trans isText)
  have saidOfGiven := equation.verdict_iff t isText
  have kept : reached = .guarded t → reached.guarding = .guarded t := by
    rintro rfl
    rfl
  have same_iff : meaning condition (context subject resource) =
      .ok (.bool (equation.verdict reached.guarding (.text t) s t)) ↔
      (equation.verdict reached (.text t) s t = true ↔
        equation.verdict reached.guarding (.text t) s t = true) := by
    rw [asks.meaning_eq (isTrue_given subject resource) found isText, Except.ok.injEq,
      Document.bool.injEq, Bool.eq_iff_iff]
  rw [asks.outcome_eq found isText]
  refine ⟨rfl, ?_, ?_⟩
  · rw [said]
    by_cases missed : equation.strict = true ∧ reached.guarding = .guarded t
    · simp only [missed, and_self, not_true, iff_false, not_iff_self]
    · simp only [missed, not_false_eq_true, iff_true]
  · rw [same_iff, said, saidOfGiven]
    by_cases given : reached = .guarded t
    · simp [eq_true given, eq_true (kept given)]
    · by_cases missed : equation.strict = true ∧ reached.guarding = .guarded t
      · simp [given, missed]
      · simp [given, missed]

/-- A restriction by code on an invoice whose code is a guarded text: the value differs from the
same text, strictly, and not over the data as given. -/
theorem equation_seen_through_but_for_code :
    let subject : Subject := ⟨.text "u1", [], []⟩
    let resource : Resource := ⟨.text "i1", .text "invoice", [(.text "code", .text "1_000")]⟩
    let condition := operation "!==" [.text "1_000", valueAt "resource.attributes.code"]
    variableIn? (context subject resource) (.text "resource.attributes.code") =
        .ok (some (.text "1_000")) ∧
      (outcome condition subject resource).error = none ∧
      ¬ ((outcome condition subject resource).satisfied = true ↔ "1_000" ≠ "1_000") ∧
      meaning condition (context subject resource) ≠
        .ok (.bool (outcome condition subject resource).satisfied) := by
  intro subject resource condition
  have found : variableIn? (context subject resource) (.text "resource.attributes.code") =
      .ok (some (.text "1_000")) := rfl
  have guarded := guarding_underscored
  have asks : Equation.Asks ⟨true, true⟩ "resource.attributes.code" "1_000" condition := .right
  obtain ⟨ended, met_iff, given_iff⟩ := equation_seen_through_iff found rfl asks
  refine ⟨found, ended, fun same => ?_, fun same => ?_⟩
  · exact met_iff.1 same ⟨rfl, guarded⟩
  · exact given_iff.1 same ⟨rfl, guarded, by simp⟩

/-- A text that is guarded is not strictly equal to itself. -/
theorem guarded_text_misses_itself :
    let subject : Subject := ⟨.text "1_000", [], []⟩
    let resource : Resource := ⟨.text "i1", .text "invoice", []⟩
    variableIn? (context subject resource) (.text "subject.id") = .ok (some (.text "1_000")) ∧
      outcome (operation "===" [valueAt "subject.id", .text "1_000"]) subject resource =
        ⟨false, none⟩ ∧
      outcome (operation "!==" [valueAt "subject.id", .text "1_000"]) subject resource =
        ⟨true, none⟩ := by
  intro subject resource
  have found : variableIn? (context subject resource) (.text "subject.id") =
      .ok (some (.text "1_000")) := rfl
  have guarded := guarding_underscored
  have same : Equation.Asks ⟨true, false⟩ "subject.id" "1_000"
      (operation "===" [valueAt "subject.id", .text "1_000"]) := .left
  have different : Equation.Asks ⟨true, true⟩ "subject.id" "1_000"
      (operation "!==" [valueAt "subject.id", .text "1_000"]) := .left
  refine ⟨found, ?_, ?_⟩
  · rw [same.outcome_eq found rfl, guarded]
    rfl
  · rw [different.outcome_eq found rfl, guarded]
    rfl

end AccessRules.Condition
