import AccessRules.Condition.Lookup
import AccessRules.Document.Members
import AccessRules.Proofs.Numeral.Script

/-!
# Variables of guarded data

Conditions are evaluated over guarded data. Guarding changes no name, no position and no length, so
a path leads to the guarded form of what it leads to in the data as given:
**`variableIn?_guarding`**. The one place where this could fail is a path into a text, which leads
to a single character. A single character is no odd numeral: if it is a number here, it is a digit.
-/

namespace AccessRules

open AccessRules.Number AccessRules.Text AccessRules.Condition

/-! ### Single characters -/

namespace Numeral

/-- A single character is no odd numeral: one that is read as a float is a digit. -/
theorem isOddNumeral_singleton (c : Char) : isOddNumeral (String.singleton c) = false := by
  rw [Bool.eq_false_iff, isOddNumeral, String.toList_singleton, ne_eq, Bool.and_eq_true,
    Bool.not_eq_true', ← Bool.not_eq_true, isPlainNumeral_iff]
  rintro ⟨odd, read⟩
  have digits : ∀ d ∈ [c], isDigit d = true :=
    List.forall_mem_singleton.2 (isDigit_of_readFloat? read)
  have nothing : ∀ d ∈ ([] : List Char), isBlank d = true := List.forall_mem_nil _
  have finite : IsFinite isDigit ([c] ++ []) := .whole (List.cons_ne_nil c []) digits .absent
  exact odd (.surrounded nothing (Or.inl rfl) (.finite finite) nothing)

end Numeral

namespace Condition

/-! ### Paths -/

theorem itemAt?_map {α β : Type} (change : α → β) (items : List α) (position : Int) :
    itemAt? (items.map change) position = (itemAt? items position).map change := by
  unfold itemAt?
  split
  · exact List.getElem?_map
  · rw [List.length_map]
    split
    · exact List.getElem?_map
    · rfl

theorem guarding_singleton (c : Char) :
    (Document.text (String.singleton c)).guarding = .text (String.singleton c) := by
  rw [Numeral.guarding_text, Numeral.isOddNumeral_singleton, if_neg Bool.false_ne_true]

/-- A character of a text is the same whether the text is guarded or not. -/
theorem step_guarding_text (value part : String) :
    step (.text value) part = (step (.text value) part).map (Option.map Document.guarding) := by
  unfold step
  dsimp only
  split
  · rfl
  · split
    · simp [Except.map, guarding_singleton]
    · rfl

/-- One part of a path leads to the guarded form of what it leads to in the document as given. -/
theorem step_guarding (document : Document) (part : String) :
    step document.guarding part = (step document part).map (Option.map Document.guarding) := by
  cases document with
  | text value =>
      rw [← step_guarding_text, Numeral.guarding_text]
      split <;> rfl
  | guarded value => exact step_guarding_text value part
  | array items =>
      rw [Document.guarding, Document.guardingItems_eq_map]
      unfold step
      dsimp only
      split
      · rfl
      · rw [itemAt?_map]
        cases itemAt? items _ <;> rfl
  | object members =>
      rw [Document.guarding, Document.guardingMembers_eq_map, step, step, Members.get?_map]
      rfl
  | null => rfl
  | bool value => rfl
  | int value => rfl
  | float value => rfl
  | leaf value => rfl

theorem follow_guarding (document : Document) (parts : List String) :
    follow document.guarding parts =
      (follow document parts).map (Option.map Document.guarding) := by
  induction parts generalizing document with
  | nil => rfl
  | cons part rest ih =>
      rw [follow, follow, step_guarding]
      cases step document part with
      | error fault => rfl
      | ok next =>
          cases next with
          | none => rfl
          | some next => exact ih next

/-- **Variables of guarded data.** A variable has the guarded form of the value that it has in the
data as given. -/
theorem variableIn?_guarding (data name : Document) :
    variableIn? data.guarding name =
      (variableIn? data name).map (Option.map Document.guarding) := by
  unfold variableIn?
  split
  · rfl
  · cases name.written with
    | error fault => rfl
    | ok path => exact follow_guarding data (pathParts path)

end Condition

end AccessRules
