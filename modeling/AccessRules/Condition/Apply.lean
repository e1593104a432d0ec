import AccessRules.Condition.Operator
import AccessRules.Condition.Lookup
import AccessRules.Condition.Method

/-!
# Functions on values

What each `Function` gives for the values of its operands. The number of operands is checked
here, after they have been evaluated.
-/

namespace AccessRules.Condition

open AccessRules.Text

/-- Is the first value in the second: a text within a text, an item of a list, or a key of an
object? Nothing is in any other value. -/
def isIn (item : Document) : Document → Except Fault Bool
  | .text whole | .guarded whole => match item.text? with
    | some part => .ok (occursIn part.toList whole.toList)
    | none => .error .wrongKind
  | .array items => .ok (item.isAmong items)
  | .object members => match item.toKey? with
    | some key => .ok (Members.find? key members).isSome
    | none => .error .wrongKind
  | _ => .ok false

/-- The items of all lists among the operands, and the other operands, in one list. -/
def merge (operands : List Document) : List Document :=
  operands.flatMap fun
    | .array items => items
    | other => [other]

/-- The written forms of the operands, one after another. -/
def concat : List Document → Except Fault String
  | [] => .ok ""
  | operand :: rest => do
      let text ← operand.written
      return text ++ (← concat rest)

/-- The value of a variable, and the default when there is none. -/
def lookUp (data name default : Document) : Except Fault Document := do
  return (← variableIn? data name).getD default

/-- The value of a function for the values of its operands. -/
def Function.apply (data : Document) : Function → List Document → Except Fault Document
  | var, [] => lookUp data .null .null
  | var, [name] => lookUp data name .null
  | var, [name, default] => lookUp data name default
  | missing, operands => (Condition.missing data operands).map .array
  | missingSome, [needed, names] => (Condition.missingSome data needed names).map .array
  | equal, [a, b] => (looselyEqual a b).map .bool
  | unequal, [a, b] => (looselyEqual a b).map (.bool !·)
  | same, [a, b] => .ok (.bool (strictlyEqual a b))
  | different, [a, b] => .ok (.bool !(strictlyEqual a b))
  | less, operands => (chained Condition.less operands).map .bool
  | lessOrEqual, operands => (chained Condition.lessOrEqual operands).map .bool
  | greater, [a, b] => (Condition.less b a).map .bool
  | greaterOrEqual, [a, b] => (Condition.lessOrEqual b a).map .bool
  | sum, operands => Condition.sum operands
  | difference, operands => Condition.difference operands
  | product, operands => Condition.product operands
  | quotient, operands => binary Numeric.div operands
  | remainder, operands => binary Numeric.mod operands
  | least, operands => best Numeric.less operands
  | greatest, operands => best (fun a b => b.less a) operands
  | negation, [a] => .ok (.bool !a.isTrue)
  | truth, [a] => .ok (.bool a.isTrue)
  | merge, operands => .ok (.array (Condition.merge operands))
  | count, operands => .ok (.int (operands.countP (·.isTrue)))
  | isIn, [item, whole] => (Condition.isIn item whole).map .bool
  | concat, operands => (Condition.concat operands).map .text
  | substring, [whole, start] => Condition.substring whole start .null
  | substring, [whole, start, length] => Condition.substring whole start length
  | method, [target, name] => do callMethod target (← name.written) (.array [])
  | method, [target, name, arguments] => do callMethod target (← name.written) arguments
  | log, [a] => .ok a
  | _, _ => .error .wrongKind

end AccessRules.Condition
