import AccessRules.Proofs.Condition.Threshold
import AccessRules.Proofs.Resolver.Listing

/-!
# Thresholds behind operators that pass a value on

An operator with one operand may pass the value on: `or`, `and` and `if` hand on the value itself,
`max` and `min` the number that it stands for, and `cat` its text. A comparison of a guarded text
with a number is a fault, but what is compared may have come through any number of such operators.

The innermost operator that does not hand on the value itself decides. `max` and `min` fail on a
guarded text, whatever stands around them. `cat` makes a new text of it, and a new text is not
guarded: from there on the condition goes on as if the data had never been guarded.

* `Relay`, `forwarding`: the operators, and the value of a path behind a row of them;
* `launders`: the row has taken the guard off;
* **`forwarded_threshold_met_iff`**: a comparison of the forwarded value with a number is satisfied
  exactly when the guard is taken off and the comparison is met by the data as given.
-/

namespace AccessRules.Condition

/-- The operators that pass a value on. -/
inductive Relay where
  /-- `cat` with one operand. -/
  | join
  /-- `or` with one operand. -/
  | either
  /-- `and` with one operand. -/
  | both
  /-- `max` with one operand. -/
  | greatest
  /-- `min` with one operand. -/
  | least
  /-- The result of `if` for a condition that always holds. -/
  | branch
  deriving DecidableEq, Repr

namespace Relay

/-- The condition that passes the value of another one on. -/
def around : Relay → Document → Document
  | .join, inner => operation "cat" [inner]
  | .either, inner => operation "or" [inner]
  | .both, inner => operation "and" [inner]
  | .greatest, inner => operation "max" [inner]
  | .least, inner => operation "min" [inner]
  | .branch, inner => operation "if" [.bool true, inner]

/-- Is the value itself handed on? -/
def selects : Relay → Bool
  | .either | .both | .branch => true
  | .join | .greatest | .least => false

/-- What is handed on for a value. -/
def pass : Relay → Document → Except Fault Document
  | .join, value => value.written.map .text
  | .greatest, value | .least, value => (toNumber value).map ofNumber
  | .either, value | .both, value | .branch, value => .ok value

/-- What a row of relays hands on for a value; the outermost one stands first. -/
def passAll : List Relay → Document → Except Fault Document
  | [], value => .ok value
  | relay :: inner, value => (passAll inner value).bind relay.pass

end Relay

/-- The value of a path behind relays. -/
def forwarding (path : String) : List Relay → Document
  | [] => valueAt path
  | relay :: inner => relay.around (forwarding path inner)

/-- Do the relays take the guard off a text? The innermost one that does not hand on the value
itself makes a new text of it. -/
def launders : List Relay → Bool
  | [] => false
  | relay :: inner => if inner.all Relay.selects then relay == .join else launders inner

/-! ### What is handed on -/

section

variable {data : Document}

/-- The largest or smallest of one number is that number. -/
theorem best_one (isBetter : Numeric → Numeric → Bool) (value : Document) :
    best isBetter [value] = (toNumber value).map ofNumber := by
  rw [best]
  cases toNumber value <;> rfl

/-- The text of one value is its written form. -/
theorem concat_one (value : Document) : concat [value] = value.written := by
  rw [concat, concat]
  cases value.written with
  | error fault => rfl
  | ok text =>
      show Except.ok (text ++ "") = Except.ok text
      rw [String.append_empty]

theorem meaning_around (whole : data.isTrue = true) (relay : Relay) (inner : Document) :
    meaning (relay.around inner) data = (meaning inner data).bind relay.pass := by
  have handed : (meaning inner data).bind Except.ok = meaning inner data := by
    cases meaning inner data <;> rfl
  cases relay with
  | join =>
      have named : Operator.ofName? "cat" = some (.function .concat) := rfl
      rw [Relay.around, meaning_function_one named whole]
      simp only [Function.apply, concat_one]
      rfl
  | either =>
      have named : Operator.ofName? "or" = some (.choice .disjunction) := rfl
      rw [Relay.around, meaning_choice named whole]
      exact handed.symm
  | both =>
      have named : Operator.ofName? "and" = some (.choice .conjunction) := rfl
      rw [Relay.around, meaning_choice named whole]
      exact handed.symm
  | greatest =>
      have named : Operator.ofName? "max" = some (.function .greatest) := rfl
      rw [Relay.around, meaning_function_one named whole]
      simp only [Function.apply, best_one]
      rfl
  | least =>
      have named : Operator.ofName? "min" = some (.function .least) := rfl
      rw [Relay.around, meaning_function_one named whole]
      simp only [Function.apply, best_one]
      rfl
  | branch =>
      have named : Operator.ofName? "if" = some (.choice .branch) := rfl
      have test : meaning (.bool true) data = .ok (.bool true) := by simp [meaning]
      rw [Relay.around, meaning_choice named whole]
      show branch data [operand (.bool true), operand inner] = _
      rw [branch, show (operand (.bool true)).meaning data = .ok (.bool true) from test]
      exact handed.symm

/-- A path behind relays has what they hand on for its value. -/
theorem meaning_forwarding {path : String} {value : Document} (whole : data.isTrue = true)
    (found : variableIn? data (.text path) = .ok (some value)) (relays : List Relay) :
    meaning (forwarding path relays) data = Relay.passAll relays value := by
  induction relays with
  | nil => exact meaning_valueAt whole found
  | cons relay inner ih => rw [forwarding, meaning_around whole, ih, Relay.passAll]

end

/-! ### Guards -/

namespace Relay

theorem pass_of_selects {relay : Relay} (selects : relay.selects = true) (value : Document) :
    relay.pass value = .ok value := by
  cases relay with
  | either => rfl
  | both => rfl
  | branch => rfl
  | _ => cases selects

theorem passAll_of_selects {relays : List Relay} (selects : relays.all Relay.selects = true)
    (value : Document) : passAll relays value = .ok value := by
  induction relays with
  | nil => rfl
  | cons relay inner ih =>
      rw [List.all_cons, Bool.and_eq_true] at selects
      rw [passAll, ih selects.2]
      exact pass_of_selects selects.1 value

/-- Relays that make a number of a value fail on a guarded text. -/
theorem pass_guarded {relay : Relay} (kept : relay ≠ .join) (text : String) :
    relay.selects = true ∨ ∃ fault, relay.pass (.guarded text) = .error fault := by
  obtain ⟨reason, refused⟩ := toNumber_guarded text
  have failed : (toNumber (.guarded text)).map ofNumber = .error (.wrongValue reason) := by
    rw [refused]
    rfl
  cases relay with
  | join => exact absurd rfl kept
  | greatest => exact Or.inr ⟨_, failed⟩
  | least => exact Or.inr ⟨_, failed⟩
  | _ => exact Or.inl rfl

/-- Relays that do not take the guard off a text hand on the text itself, or fail. -/
theorem passAll_guarded {relays : List Relay} (kept : launders relays = false) (text : String) :
    relays.all Relay.selects = true ∨ ∃ fault, passAll relays (.guarded text) = .error fault := by
  induction relays with
  | nil => exact Or.inl rfl
  | cons relay inner ih =>
      rw [passAll]
      -- The text comes through the inner relays only when all of them select, since a new text is
      -- what `kept` rules out; and what has failed stays failed further out.
      by_cases selects : inner.all Relay.selects = true
      · rw [launders, if_pos selects, beq_eq_false_iff_ne] at kept
        rw [passAll_of_selects selects, List.all_cons, selects, Bool.and_true]
        exact pass_guarded kept text
      · rw [launders, if_neg selects] at kept
        obtain ⟨fault, failed⟩ := (ih kept).resolve_left selects
        exact Or.inr ⟨fault, by rw [failed]; rfl⟩

/-- Relays that take the guard off a text hand on the same for each form of the text. -/
theorem passAll_of_launders {relays : List Relay} (laundered : launders relays = true)
    {value : Document} {text : String} (isText : value.text? = some text) :
    passAll relays value = passAll relays (.text text) := by
  induction relays with
  | nil => cases laundered
  | cons relay inner ih =>
      by_cases selects : inner.all Relay.selects = true
      · rw [launders, if_pos selects, beq_iff_eq] at laundered
        subst laundered
        rw [passAll, passAll, passAll_of_selects selects, passAll_of_selects selects]
        show value.written.map Document.text = _
        rw [Document.written_of_text? isText]
        rfl
      · rw [launders, if_neg selects] at laundered
        rw [passAll, passAll, ih laundered]

end Relay

/-! ### Comparing what is handed on -/

section

variable {name : String} {data : Document}

/-- An operator of orders compares the values of two operands, whatever the data are. -/
theorem exists_comparison (known : name ∈ ["<", "<=", ">", ">="]) :
    ∃ compare : Document → Document → Except Fault Document,
      ∀ {data : Document}, data.isTrue = true → ∀ a b,
        meaning (operation name [a, b]) data =
          (meaning a data).bind fun x => (meaning b data).bind (compare x) := by
  obtain ⟨relation, -, function, named, applied⟩ := exists_order_of_two known
  have independent : ∀ data x y, function.apply data [x, y] = function.apply .null [x, y] := by
    intro data x y
    rcases applied with applied | applied <;> rw [applied, applied]
  refine ⟨fun x y => function.apply .null [x, y], fun {data} whole a b => ?_⟩
  rw [meaning_function named whole, values_cons, values_cons]
  cases meaning a data with
  | error fault => rfl
  | ok x =>
      cases meaning b data with
      | error fault => rfl
      | ok y => exact independent data x y

/-- Behind relays that take the guard off, all data in which a path leads to some form of a text
give the same comparison. -/
theorem meaning_forwarded_of_launders {path text : String} {n given other value turned : Document}
    {relays : List Relay} (laundered : launders relays = true)
    (known : name ∈ ["<", "<=", ">", ">="]) (number : isNumber n = true)
    (whole : given.isTrue = true) (found : variableIn? given (.text path) = .ok (some value))
    (isText : value.text? = some text)
    (otherWhole : other.isTrue = true)
    (otherFound : variableIn? other (.text path) = .ok (some turned))
    (otherIsText : turned.text? = some text) :
    meaning (operation name [forwarding path relays, n]) given =
      meaning (operation name [forwarding path relays, n]) other := by
  obtain ⟨compare, compared⟩ := exists_comparison known
  rw [compared whole, compared otherWhole, meaning_forwarding whole found,
    meaning_forwarding otherWhole otherFound, Relay.passAll_of_launders laundered isText,
    Relay.passAll_of_launders laundered otherIsText, meaning_number number,
    meaning_number number]

/-- Behind relays that keep the guard on, no comparison with a number is met. -/
theorem unmet_forwarded {path text : String} {n : Document} {relays : List Relay}
    (kept : launders relays = false) (known : name ∈ ["<", "<=", ">", ">="])
    (number : isNumber n = true) (whole : data.isTrue = true)
    (found : variableIn? data (.text path) = .ok (some (.guarded text))) :
    Unmet (meaning (operation name [forwarding path relays, n]) data) := by
  have handed := meaning_forwarding whole found relays
  rcases Relay.passAll_guarded kept text with selects | ⟨fault, failed⟩
  · rw [Relay.passAll_of_selects selects] at handed
    exact unmet_two whole known handed (meaning_number number data)
      (incomparable_left text number) (incomparable_right text number)
  · obtain ⟨compare, compared⟩ := exists_comparison known
    rw [compared whole, handed, failed]
    rintro value ⟨⟩

end

/-- **Thresholds behind relays.** When a path leads to a text that is guarded, wherever in the
request it stands, a condition that compares what relays hand on for it with a number is satisfied
exactly when the relays take the guard off and the data as given meet the condition. Behind all
other relays it is satisfied by no guarded text. -/
theorem forwarded_threshold_met_iff {subject : Subject} {resource : Resource}
    {path text name : String} {reached n : Document}
    (found : variableIn? (context subject resource) (.text path) = .ok (some reached))
    (guarded : reached.guarding = .guarded text) (known : name ∈ ["<", "<=", ">", ">="])
    (number : isNumber n = true) (relays : List Relay) :
    (outcome (operation name [forwarding path relays, n]) subject resource).satisfied = true ↔
      launders relays = true ∧
        ∃ value,
          meaning (operation name [forwarding path relays, n]) (context subject resource) =
            .ok value ∧ value.isTrue = true := by
  have reaches : variableIn? (context subject resource).guarding (.text path) =
      .ok (some (.guarded text)) := guarded ▸ variableIn?_context found
  have isText : reached.text? = some text := by
    rw [← text?_guarding, guarded]
    rfl
  have whole := isTrue_context subject resource
  have formed : isOperation (operation name [forwarding path relays, n]) = true := rfl
  by_cases laundered : launders relays = true
  · rw [meaning_forwarded_of_launders laundered known number (isTrue_given subject resource) found
      isText whole reaches rfl, outcome_of_isOperation formed]
    cases meaning (operation name [forwarding path relays, n])
        (context subject resource).guarding with
    | error fault => simp
    | ok value => simp [laundered]
  · have unsatisfied : (outcome (operation name [forwarding path relays, n]) subject
        resource).satisfied = false :=
      outcome_of_unmet formed
        (unmet_forwarded (Bool.eq_false_iff.2 laundered) known number whole reaches)
    simp [unsatisfied, laundered]

/-- An amount with an underscore, joined outside of a smallest value, is not above a bound. -/
theorem forwarded_threshold_unmet_by_sealed_amount :
    let subject : Subject := ⟨.text "u1", [], []⟩
    let resource : Resource := ⟨.text "i1", .text "invoice", [(.text "amount", .text "1_000")]⟩
    variableIn? (context subject resource) (.text "resource.attributes.amount") =
        .ok (some (.text "1_000")) ∧
      (Document.text "1_000").guarding = .guarded "1_000" ∧
      (outcome (operation ">" [forwarding "resource.attributes.amount" [.join, .least, .branch],
        .int 500]) subject resource).satisfied ≠ true := by
  intro subject resource
  have found : variableIn? (context subject resource) (.text "resource.attributes.amount") =
      .ok (some (.text "1_000")) := rfl
  have guarded := guarding_underscored
  have known : ">" ∈ ["<", "<=", ">", ">="] := by decide
  have number : isNumber (.int 500) = true := rfl
  have met_iff := forwarded_threshold_met_iff found guarded known number [.join, .least, .branch]
  have kept : launders [.join, .least, .branch] = false := rfl
  refine ⟨found, guarded, fun met => ?_⟩
  rw [met_iff, kept] at met
  exact Bool.false_ne_true met.1

/-- A text that is guarded is above a bound once it is joined. -/
theorem joined_text_passes_threshold :
    let subject : Subject := ⟨.text "1_000", [], []⟩
    let resource : Resource := ⟨.text "i1", .text "invoice", []⟩
    variableIn? (context subject resource) (.text "subject.id") = .ok (some (.text "1_000")) ∧
      (Document.text "1_000").guarding = .guarded "1_000" ∧
      outcome (operation ">" [forwarding "subject.id" [.join], .int 500]) subject resource =
        ⟨true, none⟩ := by
  intro subject resource
  have found : variableIn? (context subject resource) (.text "subject.id") =
      .ok (some (.text "1_000")) := rfl
  have guarded := guarding_underscored
  have whole := isTrue_context subject resource
  have handed : meaning (forwarding "subject.id" [.join]) (context subject resource).guarding =
      .ok (.text "1_000") := by
    rw [meaning_forwarding whole (variableIn?_context found), guarded]
    rfl
  have named : Operator.ofName? ">" = some (.function .greater) := rfl
  have above : less (.int 500) (.text "1_000") = .ok true := by decide +kernel
  have met : meaning (operation ">" [forwarding "subject.id" [.join], .int 500])
      (context subject resource).guarding = .ok (.bool true) := by
    rw [meaning_operation named whole (.cons handed (.cons (meaning_number rfl _) .nil))]
    show (less (.int 500) (.text "1_000")).map Document.bool = .ok (.bool true)
    rw [above]
    rfl
  refine ⟨found, guarded, ?_⟩
  rw [outcome_of_isOperation rfl, met]
  rfl

end AccessRules.Condition
