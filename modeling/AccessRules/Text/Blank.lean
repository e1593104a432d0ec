import AccessRules.Text.Ranges

/-!
# Blank characters

Two sets of blanks are in use. Texts are trimmed and split at every blank; a numeral may be
surrounded by any of them but the four separator controls.
-/

namespace AccessRules.Text

/-- The blank characters: white space of every script and the four separator controls. -/
def blanks : Ranges :=
  [(0x9, 0xD), (0x1C, 0x20), (0x85, 0x85), (0xA0, 0xA0), (0x1680, 0x1680), (0x2000, 0x200A),
   (0x2028, 0x2029), (0x202F, 0x202F), (0x205F, 0x205F), (0x3000, 0x3000)]

/-- Is the character blank? -/
def isBlank (c : Char) : Bool := blanks.contains c

/-- Is the character a blank that may surround a numeral? -/
def isNumeralBlank (c : Char) : Bool := isBlank c && !(0x1C ≤ c.toNat && c.toNat ≤ 0x1F)

/-- Drop the characters at both ends for which `skip` holds. -/
def trimBoth (skip : Char → Bool) (text : List Char) : List Char :=
  ((text.dropWhile skip).reverse.dropWhile skip).reverse

/-- Drop the blanks at both ends. -/
def trim (text : List Char) : List Char := trimBoth isBlank text

/-- What is left without the characters at both ends, and the characters dropped there. -/
theorem exists_trimBoth (skip : Char → Bool) (text : List Char) :
    ∃ front back, (∀ c ∈ front, skip c = true) ∧ (∀ c ∈ back, skip c = true) ∧
      text = front ++ (trimBoth skip text ++ back) := by
  refine ⟨text.takeWhile skip, ((text.dropWhile skip).reverse.takeWhile skip).reverse,
    List.all_eq_true.1 List.all_takeWhile, fun c among => ?_, ?_⟩
  · exact List.all_eq_true.1 List.all_takeWhile c (List.mem_reverse.1 among)
  · rw [trimBoth, ← List.reverse_append, List.takeWhile_append_dropWhile, List.reverse_reverse,
      List.takeWhile_append_dropWhile]

theorem trimBoth_sublist (skip : Char → Bool) (text : List Char) :
    (trimBoth skip text).Sublist text := by
  have behind := (List.dropWhile_sublist skip (l := (text.dropWhile skip).reverse)).reverse
  rw [List.reverse_reverse] at behind
  exact behind.trans (List.dropWhile_sublist skip)

/-- All that is dropped around a text are the characters to be dropped. -/
theorem trimBoth_surrounded {skip : Char → Bool} {front core back : List Char}
    (before : ∀ c ∈ front, skip c = true) (solid : ∀ c ∈ core, skip c = false)
    (behind : ∀ c ∈ back, skip c = true) : trimBoth skip (front ++ (core ++ back)) = core := by
  have begins {core : List Char} (rest : List Char) (solid : ∀ c ∈ core, skip c = false)
      (filled : core ≠ []) : (core ++ rest).dropWhile skip = core ++ rest := by
    obtain ⟨c, others, rfl⟩ := List.exists_cons_of_ne_nil filled
    exact List.dropWhile_cons_of_neg (by simp [solid c])
  rw [trimBoth, List.dropWhile_append_of_pos before]
  by_cases filled : core = []
  · have gone : (back ++ []).dropWhile skip = [] := List.dropWhile_append_of_pos behind
    rw [List.append_nil] at gone
    rw [filled, List.nil_append, gone]
    rfl
  · have kept : (core.reverse ++ []).dropWhile skip = core.reverse ++ [] :=
      begins [] (by simpa using solid) (by simpa using filled)
    rw [List.append_nil] at kept
    rw [begins back solid filled, List.reverse_append,
      List.dropWhile_append_of_pos (by simpa using behind), kept, List.reverse_reverse]

theorem trimBoth_eq_self {skip : Char → Bool} {text : List Char}
    (solid : ∀ c ∈ text, skip c = false) : trimBoth skip text = text := by
  have nothing : ∀ c ∈ ([] : List Char), skip c = true := fun c among => nomatch among
  simpa using trimBoth_surrounded nothing solid nothing

end AccessRules.Text
