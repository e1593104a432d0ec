import AccessRules.Number.Exact

/-!
# Shortest digits of a float

A float is written with the fewest decimal digits that read back as it; of two such numerals the
nearer one is taken, and of two equally near ones the one with the even last digit.
-/

namespace AccessRules.Number

/-- The numeral `digits · 10 ^ exponent`. -/
structure Numeral where
  digits : Nat
  exponent : Int
  deriving DecidableEq, Repr

/-- Does the numeral round to the float with these magnitude bits? -/
def Numeral.roundsTo (n : Numeral) (bits : Nat) : Bool :=
  roundRatioBits (n.digits * Nat.pow 10 n.exponent.toNat) (Nat.pow 10 (-n.exponent).toNat) == bits

/-- Of the two neighbours of `num / den` on the grid of multiples of `10 ^ exponent`, the one that
rounds to `bits`, if there is one; of two the nearer. -/
def neighbour? (num den bits : Nat) (exponent : Int) : Option Numeral :=
  let top := num * Nat.pow 10 (-exponent).toNat
  let bottom := den * Nat.pow 10 exponent.toNat
  let below : Numeral := ⟨top / bottom, exponent⟩
  let above : Numeral := ⟨top / bottom + 1, exponent⟩
  match below.digits != 0 && below.roundsTo bits, above.roundsTo bits with
  | true, true => some ⟨roundQuotient top bottom, exponent⟩
  | true, false => some below
  | false, true => some above
  | false, false => none

/-- An exponent `e` with `10 ^ e ≤ num / den < 10 ^ (e + 1)`, for positive `num` and `den`: the
estimate from the binary logarithm is at most one too small. -/
def floorLog10 (num den : Nat) : Int :=
  let estimate := floorLog2 num den * 30103 / 100000
  let reaches (e : Int) : Bool := den * Nat.pow 10 e.toNat ≤ num * Nat.pow 10 (-e).toNat
  if reaches (estimate + 1) then estimate + 1
  else if reaches estimate then estimate
  else estimate - 1

/-- Try numerals of `count`, `count + 1`, … digits; `fuel` more grids are left to try. -/
def shortestFrom (num den bits : Nat) (top : Int) : (fuel : Nat) → (count : Nat) → Numeral
  | 0, _ => ⟨0, 0⟩
  | fuel + 1, count =>
      match neighbour? num den bits (top + 1 - count) with
      | some numeral => numeral
      | none => shortestFrom num den bits top fuel (count + 1)

/-- The shortest numeral of a positive value with these magnitude bits. Seventeen digits always
suffice. -/
def shortest (x : Exact) (bits : Nat) : Numeral :=
  let num := x.mantissa * Nat.pow 2 x.exponent.toNat
  let den := Nat.pow 2 (-x.exponent).toNat
  shortestFrom num den bits (floorLog10 num den) 17 1

end AccessRules.Number
