import AccessRules.Fault

/-!
# Integers and floats together

Arithmetic over unbounded integers and floats. Two integers stay exact, except in a quotient,
which is the float nearest to the true one. An integer beside a float is first rounded to a float,
and is too large when there is none. Comparisons round nothing.
-/

namespace AccessRules

open AccessRules.Number

/-- An integer or a float. -/
inductive Numeric where
  | int (value : Int)
  | float (value : Float)
  deriving DecidableEq, Repr

namespace Numeric

/-- The order of two numbers by their exact values; `none` when one is not a number. -/
def compare? : Numeric → Numeric → Option Ordering
  | .int i, .int j => some (compare i j)
  | .int i, .float y => compareInt i y
  | .float x, .int j => (compareInt j x).map Ordering.swap
  | .float x, .float y =>
      if x < y then some .lt else if y < x then some .gt else if x == y then some .eq else none

/-- Are the exact values equal? Not-a-number equals nothing. -/
def equal (a b : Numeric) : Bool := compare? a b == some .eq

/-- Is it not a number? -/
def isNaN : Numeric → Bool
  | .int _ => false
  | .float x => x.isNaN

/-- Is the first exact value below the second? -/
def less (a b : Numeric) : Bool := compare? a b == some .lt

/-- The float nearest to a number. -/
def toFloat : Numeric → Except Fault Float
  | .int i => match ofInt? i with
    | some x => .ok x
    | none => .error .tooLarge
  | .float x => .ok x

/-- A float that is a whole number becomes that integer; any other number stays. -/
def whole : Numeric → Numeric
  | .int i => .int i
  | .float x => match Exact.ofFloat? x with
    | some value => if value.isWhole then .int value.toInt else .float x
    | none => .float x

/-- Apply `onInts` to two integers, and `onFloats` as soon as one of the two is a float. -/
def lift (onInts : Int → Int → Except Fault Numeric)
    (onFloats : Float → Float → Except Fault Numeric) : Numeric → Numeric → Except Fault Numeric
  | .int i, .int j => onInts i j
  | a, b => do onFloats (← a.toFloat) (← b.toFloat)

/-- The sum. -/
def add : Numeric → Numeric → Except Fault Numeric :=
  lift (fun i j => .ok (.int (i + j))) (fun x y => .ok (.float (x + y)))

/-- The difference. -/
def sub : Numeric → Numeric → Except Fault Numeric :=
  lift (fun i j => .ok (.int (i - j))) (fun x y => .ok (.float (x - y)))

/-- The product. -/
def mul : Numeric → Numeric → Except Fault Numeric :=
  lift (fun i j => .ok (.int (i * j))) (fun x y => .ok (.float (x * y)))

/-- The negated number. -/
def neg : Numeric → Numeric
  | .int i => .int (-i)
  | .float x => .float (-x)

/-- The quotient of two integers, rounded once. -/
def divInts (i j : Int) : Except Fault Numeric :=
  if j = 0 then .error (.dividedByZero .quotient)
  else
    let bits := roundRatioBits i.natAbs j.natAbs
    if bits < infinityBits then
      .ok (.float (ofMagnitudeBits (i != 0 && (decide (i < 0) != decide (j < 0))) bits))
    else .error .tooLarge

/-- The quotient. -/
def div : Numeric → Numeric → Except Fault Numeric :=
  lift divInts fun x y =>
    if y == 0 then .error (.dividedByZero .floatQuotient) else .ok (.float (x / y))

/-- The exact remainder of two finite values by truncated division, with the sign of the first. -/
def truncatedRemainder (x y : Exact) : Float :=
  let exponent := min x.exponent y.exponent
  let scaled (v : Exact) : Nat := v.mantissa * Nat.pow 2 (v.exponent - exponent).toNat
  let rest := scaled x % scaled y
  roundRatio x.negative (rest * Nat.pow 2 exponent.toNat) (Nat.pow 2 (-exponent).toNat)

/-- Is the sign bit set? -/
def isNegative (x : Float) : Bool := Nat.pow 2 63 ≤ x.toBits.toNat

/-- The remainder of two floats, which has the sign of the divisor, also when it is zero. -/
def remainderFloats (x y : Float) : Float :=
  match Exact.ofFloat? x, Exact.ofFloat? y with
  | some value, some divisor =>
      let rest := truncatedRemainder value divisor
      if rest == 0 then ofMagnitudeBits (isNegative y) 0
      else if decide (y < 0) != decide (rest < 0) then rest + y
      else rest
  | some value, none =>
      if y.isNaN then y
      else if value.mantissa = 0 then ofMagnitudeBits (isNegative y) 0
      else if decide (y < 0) != value.negative then x + y
      else x
  | none, _ => 0.0 / 0.0

/-- The remainder, with the sign of the divisor. -/
def mod : Numeric → Numeric → Except Fault Numeric :=
  lift
    (fun i j => if j = 0 then .error (.dividedByZero .remainder) else .ok (.int (Int.fmod i j)))
    (fun x y =>
      if y == 0 then .error (.dividedByZero .floatRemainder)
      else .ok (.float (remainderFloats x y)))

end Numeric

end AccessRules
