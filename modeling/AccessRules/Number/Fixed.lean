import AccessRules.Number.Written

/-!
# Floats with a given number of digits

The magnitude of a float, exactly rounded to a number of digits: in positional notation with a
fixed number of places, in scientific notation, or in whichever of the two suits the size. A tie
goes to the even digit.
-/

namespace AccessRules.Number

/-- A positive value as a quotient. -/
structure Quotient where
  num : Nat
  den : Nat

/-- The magnitude of an exact value as a quotient. -/
def Exact.quotient (value : Exact) : Quotient :=
  ⟨value.mantissa * Nat.pow 2 value.exponent.toNat, Nat.pow 2 (-value.exponent).toNat⟩

/-- The quotient times a power of ten. -/
def Quotient.shift (q : Quotient) (places : Int) : Quotient :=
  ⟨q.num * Nat.pow 10 places.toNat, q.den * Nat.pow 10 (-places).toNat⟩

/-- The nearest whole number. -/
def Quotient.round (q : Quotient) : Nat := roundQuotient q.num q.den

/-- The exponent of the first decimal digit of a positive quotient. -/
def Quotient.lead (q : Quotient) : Int :=
  let guess : Int := ((decimalDigits q.num).length : Int) - (decimalDigits q.den).length
  if q.den * Nat.pow 10 guess.toNat ≤ q.num * Nat.pow 10 (-guess).toNat then guess else guess - 1

/-- Digits with `places` of them behind a point; the point is left out when there are none, unless
`keepPoint`. -/
def withPoint (digits : List Char) (places : Nat) (keepPoint : Bool) : List Char :=
  let digits := List.replicate (places + 1 - digits.length) '0' ++ digits
  let whole := digits.take (digits.length - places)
  if places = 0 then (if keepPoint then whole ++ ['.'] else whole)
  else whole ++ '.' :: digits.drop (digits.length - places)

/-- Positional notation with `places` digits behind the point. -/
def fixedText (q : Quotient) (places : Nat) (keepPoint : Bool) : List Char :=
  withPoint (decimalDigits (q.shift places).round) places keepPoint

/-- The digits of scientific notation with `places` behind the point, and the exponent. -/
def scientificDigits (q : Quotient) (places : Nat) : List Char × Int :=
  if q.num = 0 then (List.replicate (places + 1) '0', 0)
  else
    let lead := q.lead
    let digits := decimalDigits (q.shift (places - lead)).round
    if digits.length ≤ places + 1 then (digits, lead) else (digits.take (places + 1), lead + 1)

/-- The exponent of scientific notation, with its sign and at least two digits. -/
def exponentText (exponent : Int) : List Char :=
  let digits := decimalDigits exponent.natAbs
  'e' :: (if exponent < 0 then '-' else '+') ::
    (List.replicate (2 - digits.length) '0' ++ digits)

/-- Scientific notation with `places` digits behind the point. -/
def scientificText (q : Quotient) (places : Nat) (keepPoint : Bool) : List Char :=
  let (digits, exponent) := scientificDigits q places
  withPoint digits places keepPoint ++ exponentText exponent

/-- Drop the zeros at the end of a fraction, and the point when nothing is behind it. -/
def dropZeros (text : List Char) : List Char :=
  if text.contains '.' then
    match (text.reverse.dropWhile (· == '0')) with
    | '.' :: rest => rest.reverse
    | rest => rest.reverse
  else text

/-- The shorter notation with at most `digits` significant digits: positional for exponents from
`-4` up to `digits`. -/
def generalText (q : Quotient) (digits : Nat) (keepZeros : Bool) : List Char :=
  let digits := max digits 1
  let (mantissa, exponent) := scientificDigits q (digits - 1)
  if -4 ≤ exponent && exponent < digits then
    let text := fixedText q (digits - 1 - exponent).toNat keepZeros
    if keepZeros then text else dropZeros text
  else
    let text := withPoint mantissa (digits - 1) keepZeros
    (if keepZeros then text else dropZeros text) ++ exponentText exponent

end AccessRules.Number
