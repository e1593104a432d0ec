import AccessRules.Proofs.Condition.Operation
import AccessRules.Proofs.Resolver.Decision

/-!
# Thresholds and guarded texts

A condition may hold a value against numbers: `<`, `<=`, `>` and `>=` compare it with one, and `<`
and `<=` also place it among two. A guarded text is neither less nor greater than a number, nor
equal to it: comparing them is a fault, whichever of them comes first (`Incomparable`). The
operators that allow for equality ask for the order first, so they never get to compare texts.

* `Threshold`: the conditions that hold the value of a path against numbers;
* **`threshold_unmet`**: when the path leads to a text that is guarded, no such condition is
  satisfied, and no decision names a rule that carries one.
-/

namespace AccessRules.Condition

/-- The conditions that hold the value of a path against one number, or against two. -/
inductive Threshold (path : String) : Document → Prop where
  | left {name : String} {n : Document} (known : name ∈ ["<", "<=", ">", ">="])
      (number : isNumber n = true) : Threshold path (operation name [valueAt path, n])
  | right {name : String} {n : Document} (known : name ∈ ["<", "<=", ">", ">="])
      (number : isNumber n = true) : Threshold path (operation name [n, valueAt path])
  | first {name : String} {n m : Document} (known : name ∈ ["<", "<="])
      (number : isNumber n = true) (other : isNumber m = true) :
      Threshold path (operation name [valueAt path, n, m])
  | middle {name : String} {n m : Document} (known : name ∈ ["<", "<="])
      (number : isNumber n = true) (other : isNumber m = true) :
      Threshold path (operation name [n, valueAt path, m])
  | last {name : String} {n m : Document} (known : name ∈ ["<", "<="])
      (number : isNumber n = true) (other : isNumber m = true) :
      Threshold path (operation name [n, m, valueAt path])

/-! ### Comparing -/

/-- The values cannot be ordered. -/
def Incomparable (a b : Document) : Prop := ∃ fault, less a b = .error fault

theorem toNumber_guarded (text : String) :
    ∃ reason, toNumber (.guarded text) = .error (.wrongValue reason) := by
  unfold toNumber
  dsimp only
  split
  · exact ⟨_, rfl⟩
  · exact ⟨_, rfl⟩

theorem exists_toNumber {n : Document} (number : isNumber n = true) :
    ∃ value, toNumber n = .ok value := by
  cases n with
  | int value => exact ⟨_, rfl⟩
  | float value => exact ⟨_, rfl⟩
  | _ => cases number

theorem isNull_of_isNumber {n : Document} (number : isNumber n = true) : isNull n = false := by
  cases n with
  | null => cases number
  | _ => rfl

theorem isNull_guarded (text : String) : isNull (.guarded text) = false := rfl

theorem incomparable_left (text : String) {n : Document} (number : isNumber n = true) :
    Incomparable (.guarded text) n := by
  obtain ⟨reason, refused⟩ := toNumber_guarded text
  obtain ⟨value, read⟩ := exists_toNumber number
  refine ⟨.wrongValue reason, ?_⟩
  simp [less, isNull_guarded, isNull_of_isNumber number, number, refused, read]

theorem incomparable_right (text : String) {n : Document} (number : isNumber n = true) :
    Incomparable n (.guarded text) := by
  obtain ⟨reason, refused⟩ := toNumber_guarded text
  obtain ⟨value, read⟩ := exists_toNumber number
  refine ⟨.wrongValue reason, ?_⟩
  simp [less, isNull_guarded, isNull_of_isNumber number, number, refused, read]

theorem Incomparable.lessOrEqual {a b : Document} (apart : Incomparable a b) :
    ∃ fault, Condition.lessOrEqual a b = .error fault := by
  obtain ⟨fault, failed⟩ := apart
  exact ⟨fault, by rw [Condition.lessOrEqual, failed]; rfl⟩

/-- The relation of an order, strict or not. -/
def IsOrder (relation : Document → Document → Except Fault Bool) : Prop :=
  relation = less ∨ relation = lessOrEqual

theorem Incomparable.ne_true {relation : Document → Document → Except Fault Bool}
    (order : IsOrder relation) {a b : Document} (apart : Incomparable a b) :
    relation a b ≠ .ok true := by
  rcases order with rfl | rfl
  · obtain ⟨fault, failed⟩ := apart
    simp [failed]
  · obtain ⟨fault, failed⟩ := apart.lessOrEqual
    simp [failed]

/-- A chain holds where both of its links do. -/
theorem chained_three_iff {relation : Document → Document → Except Fault Bool}
    {a b c : Document} :
    chained relation [a, b, c] = .ok true ↔ relation a b = .ok true ∧ relation b c = .ok true := by
  rw [chained]
  cases first : relation a b with
  | error fault => simp [bind, Except.bind]
  | ok holds => cases holds <;> simp [bind, Except.bind, pure, Except.pure]

/-! ### Applying the operators -/

/-- The result is no value that counts as true. -/
def Unmet (result : Except Fault Document) : Prop :=
  ∀ value, result = .ok value → value.isTrue = false

theorem unmet_map {result : Except Fault Bool} (failed : result ≠ .ok true) :
    Unmet (result.map .bool) := by
  intro value came
  cases result with
  | error fault => cases came
  | ok holds =>
      cases came
      exact Bool.eq_false_iff.2 fun same => failed (same ▸ rfl)

/-- What the operators of orders make of their operands. -/
theorem exists_order {name : String} (known : name ∈ ["<", "<="]) :
    ∃ relation, IsOrder relation ∧ ∃ function, Operator.ofName? name = some (.function function) ∧
      ∀ data operands, function.apply data operands = (chained relation operands).map .bool := by
  simp only [List.mem_cons, List.not_mem_nil, or_false] at known
  rcases known with rfl | rfl
  · exact ⟨_, Or.inl rfl, .less, rfl, fun _ _ => rfl⟩
  · exact ⟨_, Or.inr rfl, .lessOrEqual, rfl, fun _ _ => rfl⟩

/-- What the operators of orders make of two operands, in one order or the other. -/
theorem exists_order_of_two {name : String} (known : name ∈ ["<", "<=", ">", ">="]) :
    ∃ relation, IsOrder relation ∧ ∃ function, Operator.ofName? name = some (.function function) ∧
      ((∀ data a b, function.apply data [a, b] = (relation a b).map .bool) ∨
        ∀ data a b, function.apply data [a, b] = (relation b a).map .bool) := by
  simp only [List.mem_cons, List.not_mem_nil, or_false] at known
  rcases known with rfl | rfl | rfl | rfl
  · exact ⟨_, Or.inl rfl, .less, rfl, Or.inl fun _ _ _ => rfl⟩
  · exact ⟨_, Or.inr rfl, .lessOrEqual, rfl, Or.inl fun _ _ _ => rfl⟩
  · exact ⟨_, Or.inl rfl, .greater, rfl, Or.inr fun _ _ _ => rfl⟩
  · exact ⟨_, Or.inr rfl, .greaterOrEqual, rfl, Or.inr fun _ _ _ => rfl⟩

/-! ### Evaluating -/

section

variable {data : Document} {name : String} {a b c x y z : Document}

/-- Two values that cannot be ordered, in either order, meet no comparison. -/
theorem unmet_two (whole : data.isTrue = true) (known : name ∈ ["<", "<=", ">", ">="])
    (first : meaning a data = .ok x) (second : meaning b data = .ok y)
    (apart : Incomparable x y) (behind : Incomparable y x) :
    Unmet (meaning (operation name [a, b]) data) := by
  obtain ⟨relation, order, function, named, applied⟩ := exists_order_of_two known
  rw [meaning_operation named whole (.cons first (.cons second .nil))]
  rcases applied with applied | applied
  · rw [applied]
    exact unmet_map (apart.ne_true order)
  · rw [applied]
    exact unmet_map (behind.ne_true order)

/-- Three values of which two neighbours cannot be ordered meet no chain. -/
theorem unmet_three (whole : data.isTrue = true) (known : name ∈ ["<", "<="])
    (first : meaning a data = .ok x) (second : meaning b data = .ok y)
    (third : meaning c data = .ok z) (apart : Incomparable x y ∨ Incomparable y z) :
    Unmet (meaning (operation name [a, b, c]) data) := by
  obtain ⟨relation, order, function, named, applied⟩ := exists_order known
  rw [meaning_operation named whole (.cons first (.cons second (.cons third .nil))), applied]
  apply unmet_map
  rw [ne_eq, chained_three_iff]
  rintro ⟨before, behind⟩
  rcases apart with apart | apart
  · exact apart.ne_true order before
  · exact apart.ne_true order behind

end

/-- No condition of thresholds is met by a guarded text. -/
theorem Threshold.unmet {path : String} {condition : Document}
    (threshold : Threshold path condition) {data : Document} (whole : data.isTrue = true)
    {text : String} (found : variableIn? data (.text path) = .ok (some (.guarded text))) :
    Unmet (meaning condition data) := by
  have value := meaning_valueAt whole found
  cases threshold with
  | left known number =>
      exact unmet_two whole known value (meaning_number number data)
        (incomparable_left text number) (incomparable_right text number)
  | right known number =>
      exact unmet_two whole known (meaning_number number data) value
        (incomparable_right text number) (incomparable_left text number)
  | first known number other =>
      exact unmet_three whole known value (meaning_number number data) (meaning_number other data)
        (Or.inl (incomparable_left text number))
  | middle known number other =>
      exact unmet_three whole known (meaning_number number data) value (meaning_number other data)
        (Or.inl (incomparable_right text number))
  | last known number other =>
      exact unmet_three whole known (meaning_number number data) (meaning_number other data) value
        (Or.inr (incomparable_right text other))

/-! ### Outcomes and decisions -/

theorem Threshold.isOperation {path : String} {condition : Document}
    (threshold : Threshold path condition) : isOperation condition = true := by
  cases threshold <;> rfl

theorem outcome_of_unmet {condition : Document} {subject : Subject} {resource : Resource}
    (formed : isOperation condition = true)
    (unmet : Unmet (meaning condition (context subject resource).guarding)) :
    (outcome condition subject resource).satisfied = false := by
  rw [outcome_of_isOperation formed]
  split
  next value came => exact unmet value came
  next => rfl

/-- **Guarded texts pass no threshold.** When a path leads to a text that is guarded, wherever in
the request it stands, no condition that holds the value of the path against numbers is satisfied,
and no decision on the request names a rule that carries such a condition. -/
theorem threshold_unmet {subject : Subject} {resource : Resource} {path text : String}
    {reached condition : Document}
    (found : variableIn? (context subject resource) (.text path) = .ok (some reached))
    (guarded : reached.guarding = .guarded text) (threshold : Threshold path condition) :
    (outcome condition subject resource).satisfied = false ∧
    ∀ (origin : Nat) (inputs : List RuleInput) (first : Store),
      Store.ofInputs origin inputs = .ok first →
      ∀ (operations : List Store.Operation) (collector : Option String) (engine : Engine)
        (action : Document) (index : Nat) (rule : Rule),
        (first.rules ++ Store.accepted operations)[index]? = some rule →
        rule.condition = some condition →
        (engine.decide ⟨⟨first.after operations, .standard⟩, collector⟩ subject resource
          action).1.matchedRule ≠ some index := by
  have reaches : variableIn? (context subject resource).guarding (.text path) =
      .ok (some (.guarded text)) := by
    rw [variableIn?_guarding, found, ← guarded]
    rfl
  have unsatisfied : (outcome condition subject resource).satisfied = false :=
    outcome_of_unmet threshold.isOperation
      (threshold.unmet (isTrue_context subject resource) reaches)
  refine ⟨unsatisfied, ?_⟩
  intro origin inputs first made operations collector engine action index rule there carried named
  have settled := (Store.coherent_of_ofInputs made operations).settles .standard subject resource
    action
  obtain ⟨⟨winner, passes⟩, -⟩ := (settled.matched index).1 named
  rw [← Store.after_rules, passes.there] at there
  obtain rfl := Option.some.inj there
  -- The rule would have to pass with its condition satisfied.
  obtain ⟨-, satisfied⟩ := passes.condition condition carried
  rw [show (Evaluator.standard.outcome condition subject resource).satisfied = false from
    unsatisfied] at satisfied
  cases satisfied

/-- An amount with an underscore, two objects deep, between a lower and an upper bound. -/
theorem threshold_unmet_by_nested_amount :
    let subject : Subject := ⟨.text "u1", [], []⟩
    let invoice : Resource :=
      ⟨.text "i1", .text "invoice", [(.text "terms", .object [(.text "amount", .text "1_000")])]⟩
    let between := operation "<=" [.int 100, valueAt "resource.attributes.terms.amount", .int 5000]
    let rule : Rule := ⟨"invoice", "pay", none, some between, by simp [between, operation]⟩
    (outcome between subject invoice).satisfied = false ∧
      (Engine.initial.decide ⟨⟨Store.after ⟨[rule], 0, 0, none⟩ [], .standard⟩, none⟩ subject
        invoice (.text "pay")).1.matchedRule ≠ some 0 := by
  intro subject invoice between rule
  have found : variableIn? (context subject invoice) (.text "resource.attributes.terms.amount") =
      .ok (some (.text "1_000")) := rfl
  have guarded : (Document.text "1_000").guarding = .guarded "1_000" :=
    (Numeral.guarding_text_iff "1_000").2 (by decide)
  have threshold : Threshold "resource.attributes.terms.amount" between :=
    .middle (by decide) rfl rfl
  obtain ⟨unsatisfied, unnamed⟩ := threshold_unmet found guarded threshold
  exact ⟨unsatisfied, unnamed 0 [.rule rule] _ rfl [] none .initial (.text "pay") 0 _ rfl rfl⟩

end AccessRules.Condition
