import AccessRules.Document.Basic

/-!
# Positions and slices

A position counts from the front, or from the back when it is negative. A position of a single
item has to exist; the bounds of a slice are moved to the nearest end.
-/

namespace AccessRules.Condition

/-- The item at a position, if it exists. -/
def itemAt? {α : Type} (items : List α) (position : Int) : Option α :=
  if 0 ≤ position then items[position.toNat]?
  else if 0 ≤ position + items.length then items[(position + items.length).toNat]?
  else none

/-- The bound of a slice of a list of `length` items: within the list, counted from the front. -/
def clampBound (length : Nat) (bound : Int) : Nat :=
  min length (if 0 ≤ bound then bound.toNat else (bound + length).toNat)

theorem clampBound_le (length : Nat) (bound : Int) : clampBound length bound ≤ length :=
  Nat.min_le_left ..

/-- The items from one bound up to another. -/
def slice {α : Type} (items : List α) (first last : Option Int) : List α :=
  let start := (first.map (clampBound items.length)).getD 0
  let stop := (last.map (clampBound items.length)).getD items.length
  (items.take stop).drop start

@[simp] theorem slice_none_none {α : Type} (items : List α) : slice items none none = items := by
  simp [slice]

/-- The bound that a document is: nothing is no bound, and truth values count as numbers. -/
def bound? : Document → Except Fault (Option Int)
  | .null => .ok none
  | .int value => .ok (some value)
  | .bool value => .ok (some (if value then 1 else 0))
  | _ => .error .wrongKind

/-- The part of a text or a list from `start` on, cut to `length`. -/
def substring (document start : Document) (length : Document) : Except Fault Document := do
  let first ← bound? start
  let last ← bound? length
  match document with
  | .text value | .guarded value =>
      return .text (String.ofList (slice (slice value.toList first none) none last))
  | .array items => return .array (slice (slice items first none) none last)
  | _ => .error .wrongKind

end AccessRules.Condition
