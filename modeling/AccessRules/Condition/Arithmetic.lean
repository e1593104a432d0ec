import AccessRules.Document.Basic
import AccessRules.Number.Parse

/-!
# Arithmetic on values

Operands are turned into numbers one at a time, each right before it is used, so that the first
fault from the left is the one reported. A float that is a whole number counts as that integer,
before an operation and after it.
-/

namespace AccessRules.Condition

/-- The float that a text stands for. A guarded text stands for none. -/
def textToFloat : Document → Except Fault Float
  | .text value => Number.parseFloat value
  | .guarded value => .error (.wrongValue (.guardedFloat value))
  | _ => .error .wrongKind

/-- The integer that a text stands for. A guarded text stands for none. -/
def textToInt : Document → Except Fault Int
  | .text value => Number.parseInt value
  | .guarded value => .error (.wrongValue (.guardedInteger value))
  | _ => .error .wrongKind

/-- Does the document hold a point as a text? -/
def hasPoint (document : Document) : Bool :=
  document.text?.any fun text => text.toList.contains '.'

/-- The number that a value stands for: a text with a point is read as a float, any other text as
an integer. -/
def toNumber : Document → Except Fault Numeric
  | .bool value => .ok (.int (if value then 1 else 0))
  | .int value => .ok (.int value)
  | .float value => .ok (Numeric.float value).whole
  | document =>
      if hasPoint document then do return (Numeric.float (← textToFloat document)).whole
      else do return .int (← textToInt document)

/-- Combine the numbers of the operands from the left, starting from `start`. -/
def combine (operation : Numeric → Numeric → Except Fault Numeric) (start : Numeric) :
    List Document → Except Fault Numeric
  | [] => .ok start
  | operand :: rest => do
      let number ← toNumber operand
      combine operation (← operation start number) rest

/-- A number as the value of an operator: whole numbers as integers. -/
def ofNumber (number : Numeric) : Document := .ofNumeric number.whole

/-- The sum of the operands. -/
def sum (operands : List Document) : Except Fault Document :=
  (combine Numeric.add (.int 0) operands).map ofNumber

/-- The product of the operands. -/
def product (operands : List Document) : Except Fault Document :=
  (combine Numeric.mul (.int 1) operands).map ofNumber

/-- The difference of two operands, or one operand negated. -/
def difference : List Document → Except Fault Document
  | [a] => do return ofNumber (← toNumber a).neg
  | [a, b] => do return ofNumber (← (← toNumber a).sub (← toNumber b))
  | _ => .error .wrongKind

/-- An operation on the numbers of exactly two operands. -/
def binary (operation : Numeric → Numeric → Except Fault Numeric) :
    List Document → Except Fault Document
  | [a, b] => do
      let x ← toNumber a
      let y ← toNumber b
      return ofNumber (← operation x y)
  | _ => .error .wrongKind

/-- The first of the numbers that none of the later ones is better than; without operands
nothing. -/
def best (isBetter : Numeric → Numeric → Bool) : List Document → Except Fault Document
  | [] => .ok .null
  | first :: rest => do
      let start ← toNumber first
      let winner ← combine
        (fun best number => .ok (if isBetter number best then number else best)) start rest
      return ofNumber winner

end AccessRules.Condition
