import AccessRules.Condition.Apply

/-!
# Evaluating conditions

A condition is a document. A list of conditions evaluates to the list of their values, an object
with one member to what the operator of that name makes of its operands, and any other document
to itself.

**Design.** `meaning condition` is the function from data to values that a condition denotes. It
recurses over the condition alone, so an operator is applied to `Operand`s whose meanings are
already at hand: it decides which of them it uses, how often, and over which data.

**Main statements.** `meaning_array` and `meaning_operator` are the two equations of the
recursion; `operandsOf_eq_map` says that the operands are those written.
-/

namespace AccessRules.Condition

/-- An operand: as it is written, and what it evaluates to over data. -/
structure Operand where
  source : Document
  meaning : Document → Except Fault Document

/-- The values of all operands, from the left. -/
def values (data : Document) : List Operand → Except Fault (List Document)
  | [] => .ok []
  | operand :: rest => do
      let value ← operand.meaning data
      return value :: (← values data rest)

/-- The value of the first result whose condition holds, or of the last result. -/
def branch (data : Document) : List Operand → Except Fault Document
  | [] => .ok .null
  | [last] => last.meaning data
  | test :: result :: rest => do
      if (← test.meaning data).isTrue then result.meaning data else branch data rest

/-- The first value for which `decides` holds, or the last one. -/
def firstDeciding (decides : Document → Bool) (data : Document) :
    List Operand → Except Fault Document
  | [] => .ok (.bool false)
  | [last] => last.meaning data
  | operand :: rest => do
      let value ← operand.meaning data
      if decides value then return value else firstDeciding decides data rest

/-- What a choice gives. -/
def Choice.apply (data : Document) : Choice → List Operand → Except Fault Document
  | .branch, operands => Condition.branch data operands
  | .ternary, [test, result, other] => do
      if (← test.meaning data).isTrue then result.meaning data else other.meaning data
  | .ternary, _ => .error .wrongKind
  | .conjunction, operands => firstDeciding (!·.isTrue) data operands
  | .disjunction, operands => firstDeciding (·.isTrue) data operands

/-- The items for which an operand counts as true. -/
def filterItems (test : Operand) : List Document → Except Fault (List Document)
  | [] => .ok []
  | item :: rest => do
      let value ← test.meaning item
      let others ← filterItems test rest
      return if value.isTrue then item :: others else others

/-- The values of an operand for each item. -/
def mapItems (image : Operand) : List Document → Except Fault (List Document)
  | [] => .ok []
  | item :: rest => do
      let value ← image.meaning item
      return value :: (← mapItems image rest)

/-- The value of an operand over the value so far and each item in turn. -/
def reduceItems (next : Operand) (start : Document) : List Document → Except Fault Document
  | [] => .ok start
  | item :: rest => do
      reduceItems next
        (← next.meaning (.record [("accumulator", start), ("current", item)])) rest

/-- Does an operand count as true for each item, up to the first for which it does not? -/
def allItems (test : Operand) : List Document → Except Fault Bool
  | [] => .ok true
  | item :: rest => do
      if (← test.meaning item).isTrue then allItems test rest else return false

/-- What a scope gives for the items of a list. -/
def Scope.onItems (scope : Scope) (body : Operand) (items : List Document) :
    Except Fault Document :=
  match scope with
  | .filter => (filterItems body items).map .array
  | .map => (mapItems body items).map .array
  | .reduce => reduceItems body .null items
  | .all => if items.isEmpty then .ok (.bool false) else (allItems body items).map .bool
  | .some => (filterItems body items).map fun found => .bool !found.isEmpty
  | .none => (filterItems body items).map fun found => .bool found.isEmpty

/-- What a scope gives for a value that is no list. -/
def Scope.onOther : Scope → Document
  | .filter => .array []
  | .map => .array []
  | .reduce => .null
  | .all => .bool false
  | .some => .bool false
  | .none => .bool true

/-- What a scope gives. The value that a reduction starts with is taken as it is written. -/
def Scope.apply (data : Document) (scope : Scope) : List Operand → Except Fault Document
  | [list, body] => do
      match ← list.meaning data with
      | .array items => scope.onItems body items
      | _ => return scope.onOther
  | [list, body, start] => do
      if scope = .reduce then
        match ← list.meaning data with
        | .array items => reduceItems body start.source items
        | _ => return start.source
      else .error .wrongKind
  | _ => .error .wrongKind

/-- What the operator of a name gives. Only an operator sees data that counts as false as the
empty object. -/
def applyNamed (name : String) (operands : List Operand) (data : Document) :
    Except Fault Document :=
  let data := data.orElse .empty
  match Operator.ofName? name with
  | some (.choice choice) => choice.apply data operands
  | some (.scope scope) => scope.apply data operands
  | some (.function function) => do function.apply data (← values data operands)
  | none => do
      let _ ← values data operands
      .error (.wrongValue (.unknownOperator name))

/-- What the operator of a key gives. A key that is no text has no operator. -/
def applyKey (key : Key) (operands : List Operand) (data : Document) : Except Fault Document :=
  match key with
  | .text name => applyNamed name operands data
  | _ => do
      let _ ← values (data.orElse .empty) operands
      .error .unknownName

mutual

/-- The value of a condition over data. -/
def meaning : Document → Document → Except Fault Document
  | .array items => fun data => (values data (operandsOf items)).map .array
  | .object [(key, .array items)] => applyKey key (operandsOf items)
  | .object [(key, operand)] => applyKey key [⟨operand, meaning operand⟩]
  | document => fun _ => .ok document

/-- The operands that stand in a list. -/
def operandsOf : List Document → List Operand
  | [] => []
  | item :: rest => ⟨item, meaning item⟩ :: operandsOf rest

end

/-- A document as an operand. -/
def operand (document : Document) : Operand := ⟨document, meaning document⟩

theorem operandsOf_eq_map (items : List Document) : operandsOf items = items.map operand := by
  induction items with
  | nil => rfl
  | cons item rest ih => simp [operandsOf, operand, ih]

/-- The operands that the value of an operator's member stands for. -/
def operandsIn : Document → List Operand
  | .array items => items.map operand
  | other => [operand other]

theorem meaning_array (items : List Document) (data : Document) :
    meaning (.array items) data = (values data (items.map operand)).map .array := by
  simp [meaning, operandsOf_eq_map]

theorem meaning_operator (name : String) (body data : Document) :
    meaning (.object [(.text name, body)]) data = applyNamed name (operandsIn body) data := by
  cases body <;> simp [meaning, applyKey, operandsIn, operand, operandsOf_eq_map]

end AccessRules.Condition
