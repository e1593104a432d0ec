import AccessRules.Document.Basic

/-!
# Guarding texts against being read as numbers

Some texts are numerals here that no other client takes for numbers: numerals with underscores,
and the names of special values. In an evaluation context such a text is replaced by a guarded
one, which refuses every conversion, so that comparing it with a number fails instead of passing
a threshold.
-/

namespace AccessRules

/-- Is the text a numeral here but not to every client? -/
def isOddNumeral (text : String) : Bool :=
  !Number.isPlainNumeral text.toList && (Number.readFloat? text.toList).isSome

namespace Document

mutual

/-- The document with every odd numeral in it guarded. Keys stay as they are. -/
def guarding : Document → Document
  | .text value => if isOddNumeral value then .guarded value else .text value
  | .array items => .array (guardingItems items)
  | .object members => .object (guardingMembers members)
  | document => document

/-- The items of a list, guarded. -/
def guardingItems : List Document → List Document
  | [] => []
  | item :: rest => guarding item :: guardingItems rest

/-- The members of an object with their values guarded. -/
def guardingMembers : List (Key × Document) → List (Key × Document)
  | [] => []
  | (key, value) :: rest => (key, guarding value) :: guardingMembers rest

end

theorem guardingItems_eq_map (items : List Document) :
    guardingItems items = items.map guarding := by
  induction items with
  | nil => rfl
  | cons item rest ih => simp [guardingItems, ih]

theorem guardingMembers_eq_map (members : Members) :
    guardingMembers members = members.map fun member => (member.1, guarding member.2) := by
  induction members with
  | nil => rfl
  | cons member rest ih => simp [guardingMembers, ih]

end Document

end AccessRules
