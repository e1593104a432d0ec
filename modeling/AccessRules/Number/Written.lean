import AccessRules.Number.Shortest

/-!
# Written numbers

Integers are written in decimal. Floats are written with their shortest digits, laid out by one
record: positional notation with at least one digit behind the point in a middle range of
exponents, and a signed exponent of at least two digits outside it.
-/

namespace AccessRules.Number

/-- Decimal digits of a natural number, put in front of `rest`. -/
def decimalDigits (n : Nat) : List Char := Nat.toDigits 10 n

/-- An integer in decimal. -/
def writtenInt (i : Int) : String :=
  String.ofList (if i < 0 then '-' :: decimalDigits i.natAbs else decimalDigits i.natAbs)

/-- Where positional notation begins and ends, by the exponent of the first digit, and how wide
an exponent is at least. -/
structure Layout where
  leastPositional : Int
  leastExponential : Int
  exponentWidth : Nat

/-- Numbers from `0.0001` up to sixteen digits in front of the point are written positionally. -/
def layout : Layout := ⟨-4, 16, 2⟩

/-- Drop the zeros at the end of a numeral's digits. -/
def significantDigits (n : Numeral) : List Char :=
  match ((decimalDigits n.digits).reverse.dropWhile (· == '0')).reverse with
  | [] => ['0']
  | digits => digits

/-- A numeral in positional notation; `lead` is the exponent of its first digit. -/
def positional (digits : List Char) (lead : Int) : List Char :=
  if lead < 0 then
    '0' :: '.' :: List.replicate (-lead - 1).toNat '0' ++ digits
  else
    let whole := digits.take (lead + 1).toNat
    let fraction := digits.drop (lead + 1).toNat
    whole ++ List.replicate ((lead + 1).toNat - whole.length) '0' ++ '.' ::
      (if fraction.isEmpty then ['0'] else fraction)

/-- A numeral with an exponent; the point is left out behind a single digit. -/
def exponential (digits : List Char) (lead : Int) (width : Nat) : List Char :=
  let exponent := decimalDigits lead.natAbs
  digits.take 1 ++ (if digits.length ≤ 1 then [] else '.' :: digits.drop 1) ++
    'e' :: (if lead < 0 then '-' else '+') ::
      (List.replicate (width - exponent.length) '0' ++ exponent)

/-- The written form of a positive numeral. -/
def Numeral.written (format : Layout) (n : Numeral) : List Char :=
  let digits := significantDigits n
  let lead := n.exponent + (decimalDigits n.digits).length - 1
  if format.leastPositional ≤ lead && lead < format.leastExponential then positional digits lead
  else exponential digits lead format.exponentWidth

/-- The written form of a float. -/
def writtenFloat (x : Float) : String :=
  match Exact.ofFloat? x with
  | none => if x.isNaN then "nan" else if x < 0 then "-inf" else "inf"
  | some value =>
      let magnitude :=
        if value.mantissa = 0 then ['0', '.', '0']
        else (shortest value (x.toBits.toNat % Nat.pow 2 63)).written layout
      String.ofList (if value.negative then '-' :: magnitude else magnitude)

end AccessRules.Number
