import AccessRules.Settings.Basic
import Mathlib.Data.List.Forall2

/-!
# Names in any case

The name of a setting consists of plain small letters and underscores. Which spellings come to it
in lower case can be said letter by letter, without the tables of lower case: each character is the
letter itself or its capital, and the sign for kelvins is one more capital K. No other character
has a plain letter as its lower case (`soleLower_eq_iff`), and **`lowerName_eq_iff`** is the rule
for names.
-/

namespace AccessRules

namespace Text

/-- The characters of the names of settings. -/
def nameLetters : List Char := "abcdefghijklmnopqrstuvwxyz_".toList

/-- The sign for kelvins. -/
def kelvin : Char := '\u212A'

/-- The character is the letter or a capital of it. -/
def IsForm (c letter : Char) : Prop := c.toLower = letter ∨ c = kelvin ∧ letter = 'k'

theorem ascii_of_mem_nameLetters {c : Char} (plain : c ∈ nameLetters) : c.toNat < 128 := by
  have all : nameLetters.all (·.toNat < 128) = true := by decide
  exact of_decide_eq_true (List.all_eq_true.1 all c plain)

/-! ### Characters -/

/-- The lower case of a character on its own. -/
def soleLower (c : Char) : Char := ((CaseRun.map? lowerRuns c.toNat).map Char.ofNat).getD c

theorem toLower_of_no_capital {c : Char} (other : ¬ (65 ≤ c.toNat ∧ c.toNat ≤ 90)) :
    c.toLower = c := by
  unfold Char.toLower
  rw [dif_neg]
  rintro ⟨least, most⟩
  exact other ⟨least, most⟩

theorem map?_lowerRuns_eq_none {code : Nat} (small : code < 128)
    (other : ¬ (65 ≤ code ∧ code ≤ 90)) : CaseRun.map? lowerRuns code = none := by
  have all : ∀ run ∈ lowerRuns, run.first = 65 ∧ run.last = 90 ∨ 128 ≤ run.first := by
    decide +kernel
  rw [CaseRun.map?, Option.map_eq_none_iff, List.find?_eq_none]
  intro run among covers
  simp only [Bool.and_eq_true, decide_eq_true_iff] at covers
  have := all run among
  omega

theorem soleLower_of_ascii {c : Char} (ascii : c.toNat < 128) : soleLower c = c.toLower := by
  by_cases capital : 65 ≤ c.toNat ∧ c.toNat ≤ 90
  · have all : ∀ n < 26, soleLower (Char.ofNat (65 + n)) = (Char.ofNat (65 + n)).toLower := by
      decide +kernel
    have here := all (c.toNat - 65) (by omega)
    rwa [Nat.add_sub_cancel' capital.1, Char.ofNat_toNat] at here
  · rw [toLower_of_no_capital capital, soleLower, map?_lowerRuns_eq_none ascii capital]
    rfl

theorem map?_lowerRuns_large {code image : Nat} (large : 128 ≤ code) (other : code ≠ kelvin.toNat)
    (mapped : CaseRun.map? lowerRuns code = some image) : 128 ≤ image := by
  obtain ⟨run, found, rfl⟩ := Option.map_eq_some_iff.1 mapped
  have all : ∀ run ∈ lowerRuns,
      run.last < 128 ∨ (run.first = kelvin.toNat ∧ run.last = kelvin.toNat) ∨ 128 ≤ run.image := by
    decide +kernel
  have covers := List.find?_some found
  simp only [Bool.and_eq_true, decide_eq_true_iff] at covers
  have := all run (List.mem_of_find?_eq_some found)
  omega

theorem ofNat_large {n : Nat} (large : 128 ≤ n) : Char.ofNat n ∉ nameLetters := by
  intro plain
  by_cases valid : n.isValidChar
  · have small := ascii_of_mem_nameLetters plain
    rw [Char.ofNat, dif_pos valid] at small
    have same : (Char.ofNatAux n valid).toNat = n := rfl
    omega
  · rw [Char.ofNat, dif_neg valid] at plain
    exact absurd plain (by decide)

/-- Beyond ASCII only the sign for kelvins has a plain letter as its lower case. -/
theorem soleLower_not_mem {c : Char} (large : 128 ≤ c.toNat) (other : c ≠ kelvin) :
    soleLower c ∉ nameLetters := by
  unfold soleLower
  cases mapped : CaseRun.map? lowerRuns c.toNat with
  | none =>
      rw [← Char.ofNat_toNat c]
      exact ofNat_large large
  | some image =>
      have apart : c.toNat ≠ kelvin.toNat := fun same => other (Char.toNat_inj.1 same)
      exact ofNat_large (map?_lowerRuns_large large apart mapped)

section

variable {letter : Char} (plain : letter ∈ nameLetters)

include plain

theorem not_isForm {c : Char} (large : 128 ≤ c.toNat) (other : c ≠ kelvin) : ¬ IsForm c letter := by
  rintro (same | ⟨same, -⟩)
  · rw [toLower_of_no_capital (by omega)] at same
    rw [same] at large
    have := ascii_of_mem_nameLetters plain
    omega
  · exact other same

theorem soleLower_eq_iff {c : Char} : soleLower c = letter ↔ IsForm c letter := by
  by_cases ascii : c.toNat < 128
  · rw [soleLower_of_ascii ascii, IsForm]
    refine ⟨Or.inl, ?_⟩
    rintro (same | ⟨rfl, -⟩)
    · exact same
    · exact absurd ascii (by decide)
  · have large : 128 ≤ c.toNat := by omega
    by_cases same : c = kelvin
    · subst same
      have lower : soleLower kelvin = 'k' := by decide +kernel
      rw [lower]
      constructor
      · rintro rfl
        exact Or.inr ⟨rfl, rfl⟩
      · rintro (same | ⟨-, rfl⟩)
        · rw [← same] at plain
          exact absurd plain (by decide)
        · rfl
    · have apart : soleLower c ≠ letter := by
        rintro rfl
        exact soleLower_not_mem large same plain
      exact iff_of_false apart (not_isForm plain large same)

end

/-! ### Texts -/

/-- A character goes into lower case by itself, but for the capital sigma and the dotted capital I,
which have no plain letter as their lower case. -/
theorem lowerChar_append_eq_cons_iff {before after rest name : List Char} {c letter : Char}
    (plain : ∀ d ∈ letter :: name, d ∈ nameLetters) :
    lowerChar before c after ++ rest = letter :: name ↔ IsForm c letter ∧ rest = name := by
  obtain ⟨first, others⟩ := List.forall_mem_cons.1 plain
  have strange (beyond : c.toNat = 0x3A3 ∨ c.toNat = 0x130) : ¬ IsForm c letter := by
    refine not_isForm first (by omega) ?_
    rintro rfl
    exact absurd beyond (by decide)
  unfold lowerChar
  split
  next sigma =>
    refine iff_of_false (fun same => ?_) fun form => strange (Or.inl sigma) form.1
    split at same
    all_goals
      rw [List.singleton_append, List.cons.injEq] at same
      rw [← same.1] at first
      exact absurd first (by decide)
  next =>
    split
    next dotted =>
      refine iff_of_false (fun same => ?_) fun form => strange (Or.inr dotted) form.1
      rw [List.cons_append, List.cons.injEq, List.singleton_append] at same
      have behind : Char.ofNat 0x307 ∈ name := by rw [← same.2]; exact List.mem_cons_self
      exact absurd (others _ behind) (by decide)
    next =>
      rw [List.singleton_append, List.cons.injEq]
      exact and_congr_left fun _ => soleLower_eq_iff first

theorem lowerChar_ne_nil (before : List Char) (c : Char) (after : List Char) :
    lowerChar before c after ≠ [] := by
  unfold lowerChar
  split
  · split <;> exact List.cons_ne_nil _ _
  · split <;> exact List.cons_ne_nil _ _

/-- A text comes to plain letters in lower case when it has a form of each of them. -/
theorem lowerFrom_eq_iff {before text name : List Char} (plain : ∀ d ∈ name, d ∈ nameLetters) :
    lowerFrom before text = name ↔ List.Forall₂ IsForm text name := by
  induction text generalizing before name with
  | nil =>
      rw [lowerFrom, List.forall₂_nil_left_iff]
      exact eq_comm
  | cons c after ih =>
      cases name with
      | nil =>
          refine iff_of_false (fun none => ?_) (fun forms => nomatch forms)
          exact lowerChar_ne_nil before c after (List.append_eq_nil_iff.1 none).1
      | cons letter rest =>
          rw [lowerFrom, lowerChar_append_eq_cons_iff plain, List.forall₂_cons,
            ih (List.forall_mem_cons.1 plain).2]

end Text

namespace Settings

open AccessRules.Text

/-- The spelling is the name in some case. -/
def GoesBy (spelling name : String) : Prop := List.Forall₂ IsForm spelling.toList name.toList

/-- The name consists of plain small letters and underscores. -/
def IsPlain (name : String) : Prop := ∀ c ∈ name.toList, c ∈ nameLetters

instance (name : String) : Decidable (IsPlain name) :=
  List.decidableBAll (· ∈ nameLetters) name.toList

/-- **Names in any case.** A spelling comes to a plain name in lower case when it is the name
letter by letter, each of them small or capital. -/
theorem lowerName_eq_iff {spelling name : String} (plain : IsPlain name) :
    lowerName spelling = name ↔ GoesBy spelling name := by
  rw [GoesBy, lowerName, ← String.toList_inj, String.toList_ofList]
  exact lowerFrom_eq_iff plain

end Settings

end AccessRules
