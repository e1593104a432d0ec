/-!
# Ranges of characters

Properties of characters are given as sorted lists of inclusive code point ranges.
-/

namespace AccessRules.Text

/-- A property of characters, as the inclusive ranges of code points that have it. -/
abbrev Ranges := List (Nat × Nat)

/-- Does the character lie in one of the ranges? -/
def Ranges.contains (ranges : Ranges) (c : Char) : Bool :=
  ranges.any fun range => range.1 ≤ c.toNat && c.toNat ≤ range.2

@[simp] theorem Ranges.contains_nil (c : Char) : Ranges.contains [] c = false := rfl

@[simp] theorem Ranges.contains_cons (range : Nat × Nat) (rest : Ranges) (c : Char) :
    Ranges.contains (range :: rest) c =
      ((range.1 ≤ c.toNat && c.toNat ≤ range.2) || Ranges.contains rest c) := rfl

end AccessRules.Text
