/-!
# Exact values of floats

A finite float is a whole number times a power of two. This module takes floats apart into that
form, rounds a ratio of whole numbers to the nearest float, and compares floats with integers
without rounding either side.

* `Exact.ofFloat?` — the exact value of a finite float;
* `roundRatio` — the nearest float to a ratio, a tie going to the even neighbour;
* `Float.compareInt` — the order of an integer and a float.
-/

namespace AccessRules.Number

/-- The number `± mantissa · 2 ^ exponent`. -/
structure Exact where
  negative : Bool
  mantissa : Nat
  exponent : Int
  deriving DecidableEq, Repr

/-- The exact value of a finite float; `none` for infinities and for not-a-number. -/
def Exact.ofFloat? (x : Float) : Option Exact :=
  let bits : Nat := x.toBits.toNat
  let negative := bits / Nat.pow 2 63 == 1
  let biased : Nat := bits / Nat.pow 2 52 % Nat.pow 2 11
  let fraction : Nat := bits % Nat.pow 2 52
  if biased = 2047 then none
  else if biased = 0 then some ⟨negative, fraction, -1074⟩
  else some ⟨negative, Nat.pow 2 52 + fraction, (biased : Int) - 1075⟩

/-- The signed whole number `± mantissa`. -/
def Exact.signed (x : Exact) : Int := if x.negative then -(x.mantissa : Int) else x.mantissa

/-- Is the value a whole number? -/
def Exact.isWhole (x : Exact) : Bool :=
  0 ≤ x.exponent || x.mantissa % Nat.pow 2 (-x.exponent).toNat == 0

/-- The whole number that the value is, when it is one. -/
def Exact.toInt (x : Exact) : Int :=
  if 0 ≤ x.exponent then x.signed * Nat.pow 2 x.exponent.toNat
  else x.signed / Nat.pow 2 (-x.exponent).toNat

/-- The value with the sign bit set or not, from the bits below the sign. -/
def ofMagnitudeBits (negative : Bool) (bits : Nat) : Float :=
  Float.ofBits (UInt64.ofNat (if negative then Nat.pow 2 63 + bits else bits))

/-- The bits of positive infinity: the least magnitude that is not finite. -/
def infinityBits : Nat := 2047 * Nat.pow 2 52

/-- The quotient rounded to the nearest whole number, a tie to the even one. -/
def roundQuotient (num den : Nat) : Nat :=
  let quotient := num / den
  let rest := 2 * (num % den)
  if rest < den || (rest == den && quotient % 2 == 0) then quotient else quotient + 1

/-- The greatest `e` with `2 ^ e ≤ num / den`, for positive `num` and `den`. -/
def floorLog2 (num den : Nat) : Int :=
  let guess : Int := (Nat.log2 num : Int) - Nat.log2 den
  if den * Nat.pow 2 guess.toNat ≤ num * Nat.pow 2 (-guess).toNat then guess else guess - 1

/-- The magnitude bits of the nearest float to `num / den`. A result at or above `infinityBits`
is too large for a float. A significand that rounds up to the next power of two carries into the
exponent by the addition alone. -/
def roundRatioBits (num den : Nat) : Nat :=
  if num = 0 then 0
  else
    let exponent := max (floorLog2 num den - 52) (-1074)
    let significand :=
      roundQuotient (num * Nat.pow 2 (-exponent).toNat) (den * Nat.pow 2 exponent.toNat)
    if significand < Nat.pow 2 52 then significand
    else ((exponent + 1075).toNat) * Nat.pow 2 52 + (significand - Nat.pow 2 52)

/-- The nearest float to `± num / den`; infinity when that is too large. -/
def roundRatio (negative : Bool) (num den : Nat) : Float :=
  ofMagnitudeBits negative (min (roundRatioBits num den) infinityBits)

/-- The nearest float to an integer; `none` when that is too large. -/
def ofInt? (i : Int) : Option Float :=
  let bits := roundRatioBits i.natAbs 1
  if bits < infinityBits then some (ofMagnitudeBits (i < 0) bits) else none

/-- The nearest float to `± digits · 10 ^ exponent`. A value far outside the range of floats is
told from the binary logarithm of its digits, so that no huge power is computed. -/
def ofDecimal (negative : Bool) (digits : Nat) (exponent : Int) : Float :=
  if digits = 0 then ofMagnitudeBits negative 0
  else if exponent + (Nat.log2 digits * 3 / 10 : Nat) > 310 then
    ofMagnitudeBits negative infinityBits
  else if exponent + (Nat.log2 digits / 3 + 2 : Nat) < -330 then ofMagnitudeBits negative 0
  else roundRatio negative (digits * Nat.pow 10 exponent.toNat) (Nat.pow 10 (-exponent).toNat)

/-- The order of an integer and a float by their exact values; `none` against not-a-number. -/
def compareInt (i : Int) (x : Float) : Option Ordering :=
  match Exact.ofFloat? x with
  | some value =>
      some (compare (i * Nat.pow 2 (-value.exponent).toNat)
        (value.signed * Nat.pow 2 value.exponent.toNat))
  | none => if x.isNaN then none else some (if x < 0 then .gt else .lt)

end AccessRules.Number
