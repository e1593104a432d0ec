import AccessRules.Condition.Arithmetic
import AccessRules.Document.Equality
import AccessRules.Document.Written

/-!
# Comparing values

Loose equality compares the written forms as soon as one side is a text, and otherwise whether
both sides count as true as soon as one side is a truth value. Strict equality wants the same
kind, integers and floats being one kind. An order between a number and anything else is an order
of numbers, and fails when the other side has no number.
-/

namespace AccessRules.Condition

/-- Is the document a text, guarded or not? -/
def isText (document : Document) : Bool := document.text?.isSome

/-- Is the document nothing? -/
def isNull : Document → Bool
  | .null => true
  | _ => false

/-- Is the document a truth value? -/
def isBool : Document → Bool
  | .bool _ => true
  | _ => false

/-- Is the document an integer or a float? -/
def isNumber : Document → Bool
  | .int _ => true
  | .float _ => true
  | _ => false

/-- Are the values loosely equal? -/
def looselyEqual (a b : Document) : Except Fault Bool := do
  if isText a || isText b then
    let left ← a.written
    let right ← b.written
    return left == right
  else if isBool a || isBool b then return a.isTrue == b.isTrue
  else return a.equal b

/-- Are the values equal and of the same kind? -/
def strictlyEqual (a b : Document) : Bool :=
  if a.kind == b.kind || (isNumber a && isNumber b) then a.equal b else false

mutual

/-- Does the first value come before the second in the order of their kind? Numbers are ordered by
value, texts by code points, and lists by their first different items. -/
def precedes : Document → Document → Except Fault Bool
  | .array as, .array bs => precedesItems as bs
  | .text a, .text b => .ok (a < b)
  | .text a, .guarded b => .ok (a < b)
  | .guarded a, .text b => .ok (a < b)
  | .guarded a, .guarded b => .ok (a < b)
  | .leaf a, .leaf b => if a.kind == b.kind then .ok (a.text < b.text) else .error .wrongKind
  | a, b => match a.numeric?, b.numeric? with
    | some x, some y => .ok (x.less y)
    | _, _ => .error .wrongKind

/-- Does the first list come before the second? -/
def precedesItems : List Document → List Document → Except Fault Bool
  | _, [] => .ok false
  | [], _ :: _ => .ok true
  | a :: as, b :: bs => if a.equal b then precedesItems as bs else precedes a b

end

/-- Is the first value less than the second? Nothing is neither less nor more than anything. -/
def less (a b : Document) : Except Fault Bool := do
  if isNull a || isNull b then return false
  else if isNumber a || isNumber b then
    match toNumber a, toNumber b with
    | .ok x, .ok y => return x.less y
    | .error .wrongKind, _ => return false
    | .error fault, _ => .error fault
    | _, .error .wrongKind => return false
    | _, .error fault => .error fault
  else precedes a b

/-- Is the first value less than the second or loosely equal to it? -/
def lessOrEqual (a b : Document) : Except Fault Bool := do
  if ← less a b then return true else looselyEqual a b

/-- Does a relation hold between two values, or between each two neighbours of three? -/
def chained (relation : Document → Document → Except Fault Bool) :
    List Document → Except Fault Bool
  | [a, b] => relation a b
  | [a, b, c] => do if ← relation a b then relation b c else return false
  | _ => .error .wrongKind

end AccessRules.Condition
