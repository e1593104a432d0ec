import AccessRules.Proofs.Numeral.Grammar
import AccessRules.Proofs.Spelling.Number

/-!
# Texts that are read as numbers

A text is prepared before it is read as a float: blanks are dropped at its ends, digits of any
script become plain ones, and underscores between digits are dropped. What is left is a sign and a
numeral with plain digits, or the name of a special value.

* `readFloat?_isSome_iff`: what has to be left of a text that is read;
* **`readFloat?_isSome`**: every numeral with digits of any script is read;
* `readFloat?_isSome_of_readInt`: so is every text that is read as an integer;
* `isReadable_of_readFloat?`: a text that is read holds no other characters than blanks, digits,
  and a few more.
-/

namespace AccessRules.Numeral

open AccessRules.Number AccessRules.Text

/-! ### Plain digits -/

theorem digitValue?_lt {c : Char} {value : Nat} (found : digitValue? c = some value) :
    value < 10 := by
  unfold digitValue? at found
  split at found
  · split at found
    next plain =>
      have inRange : 48 ≤ c.toNat ∧ c.toNat ≤ 57 := by simpa using plain
      cases found
      omega
    next => cases found
  · obtain ⟨start, isStart, rfl⟩ := Option.map_eq_some_iff.1 found
    have inRun := List.find?_some isStart
    simp only [Bool.and_eq_true, decide_eq_true_eq] at inRun
    omega

theorem isPlainDigit_plainDigit {c : Char} (digit : isDigit c = true) :
    isPlainDigit (plainDigit c) = true := by
  obtain ⟨value, found⟩ := Option.isSome_iff_exists.1 digit
  have plain : ∀ value < 10, isPlainDigit (Char.ofNat (48 + value)) = true := by decide
  rw [plainDigit, found]
  exact plain value (digitValue?_lt found)

theorem plainDigit_of_not_isDigit {c : Char} (other : isDigit c = false) : plainDigit c = c := by
  rw [isDigit, Option.isSome_eq_false_iff, Option.isNone_iff_eq_none] at other
  rw [plainDigit, other]

theorem isDigit_of_isPlainDigit {c : Char} (plain : isPlainDigit c = true) : isDigit c = true := by
  have known : ∀ c ∈ "0123456789".toList, isDigit c = true :=
    List.all_iff_forall_prop.1 (by decide)
  exact known c (Spelling.mem_digits plain)

/-! ### What is left of a text that is read -/

/-- The names of special values, in lower case. -/
def specialNames : List String := ["inf", "infinity", "nan"]

/-- A number without its sign, as it is left by the preparation. -/
def IsReal (text : List Char) : Prop :=
  String.ofList (text.map plainLower) ∈ specialNames ∨ IsFinite isPlainDigit text

theorem magnitude?_isSome_iff (negative : Bool) (text : List Char) :
    (magnitude? negative text).isSome = true ↔ IsReal text := by
  rw [IsReal, ← decimalParts?_isSome_iff]
  unfold magnitude?
  dsimp only
  split
  next infinite =>
    rw [Bool.or_eq_true, beq_iff_eq, beq_iff_eq] at infinite
    rcases infinite with same | same <;> simp [same, specialNames]
  next other =>
    split <;> simp_all [specialNames]

theorem readFloat?_isSome_iff (text : List Char) :
    (readFloat? text).isSome = true ↔
      ∃ plain, dropUnderscores? none (numeralText text) = some plain ∧
        IsReal (splitSign plain).2 := by
  rw [readFloat?, readSigned?]
  cases dropUnderscores? none (numeralText text) with
  | none => simp
  | some plain => simp [magnitude?_isSome_iff]

/-! ### Numerals with digits of any script -/

theorem isReal_of_isMagnitude {text : List Char} (sized : IsMagnitude isPlainDigit text) :
    IsReal text := by
  cases sized with
  | infinity => exact Or.inl (by decide)
  | finite finite => exact Or.inr finite

/-- **Numerals are read.** A numeral with digits of any script is read as a float when the blanks
around it are those of numerals. -/
theorem readFloat?_isSome {text : List Char} (decimal : IsDecimal isDigit isNumeralBlank text) :
    (readFloat? text).isSome = true := by
  obtain @⟨front, sign, magnitude, back, before, signed, sized, behind⟩ := decimal
  have fixed : ∀ c ∈ marks, plainDigit c = c := List.all_iff_forall_prop.1 (by decide)
  have marked : ∀ c ∈ marks, isNumeralBlank c = false := List.all_iff_forall_prop.1 (by decide)
  have digits (c : Char) (digit : isDigit c = true) : isNumeralBlank c = false := by
    rw [isNumeralBlank, isBlank_of_isDigit digit, Bool.false_and]
  have plain : IsMagnitude isPlainDigit (magnitude.map plainDigit) :=
    sized.map fixed fun c _ => isPlainDigit_plainDigit
  have prepared : numeralText (front ++ (sign ++ magnitude ++ back)) =
      sign ++ magnitude.map plainDigit := by
    rw [numeralText, trimBoth_surrounded before (solid_of_isMagnitude digits marked signed sized)
      behind, List.map_append, signed.map fixed]
  have noScore : '_' ∉ sign ++ magnitude.map plainDigit := by
    intro among
    rcases List.mem_append.1 among with inSign | inMagnitude
    · exact absurd (mem_marks_of_sign signed inSign) (by decide)
    · exact absurd (plain.mem inMagnitude) (by decide)
  rw [readFloat?_isSome_iff, prepared, Spelling.dropUnderscores?_eq_self noScore]
  refine ⟨_, rfl, ?_⟩
  rw [splitSign_append signed (plain.unsigned isPlainDigit_of_mem_marks)]
  exact isReal_of_isMagnitude plain

/-! ### Integers -/

/-- No two underscores stand side by side. -/
def Separated (text : List Char) : Prop :=
  ∀ pair ∈ text.zip text.tail, ¬ (pair.1 = '_' ∧ pair.2 = '_')

/-- Underscores are dropped where each stands between two digits. -/
theorem dropUnderscores?_of_separated {text : List Char}
    (known : ∀ c ∈ text, isPlainDigit c = true ∨ c = '_') (apart : Separated text)
    (last : text.getLast? ≠ some '_') (before : Option Char)
    (first : text.head? = some '_' → before.any isPlainDigit = true) :
    dropUnderscores? before text = some (text.filter (· != '_')) := by
  induction text generalizing before with
  | nil => rfl
  | cons c rest ih =>
      have knownRest : ∀ c ∈ rest, isPlainDigit c = true ∨ c = '_' :=
        fun d among => known d (List.mem_cons_of_mem c among)
      have apartRest : Separated rest := by
        intro pair among
        cases rest with
        | nil => cases among
        | cons d rest => exact apart pair (List.mem_cons_of_mem _ among)
      have lastRest : rest.getLast? ≠ some '_' := by
        cases rest with
        | nil => exact fun same => nomatch same
        | cons d rest => rwa [List.getLast?_cons_cons] at last
      by_cases score : c = '_'
      · subst score
        cases rest with
        | nil => exact absurd rfl last
        | cons d rest =>
            -- The next character is no underscore, so it is a digit.
            have other : d ≠ '_' := fun same => apart ('_', d) (by simp) ⟨rfl, same⟩
            have digit : isPlainDigit d = true := (knownRest d (by simp)).resolve_right other
            have next := ih knownRest apartRest lastRest (some '_')
              fun same => absurd (Option.some.inj same) other
            simpa [dropUnderscores?, first rfl, digit] using next
      · have digit : isPlainDigit c = true := (known c (by simp)).resolve_right score
        have next := ih knownRest apartRest lastRest (some c) fun _ => digit
        rw [dropUnderscores?, next]
        · simp [score]
        · exact score

/-- What digits in groups consist of. -/
theorem separated_of_groupedDigits? {text digits : List Char}
    (grouped : groupedDigits? isPlainDigit text = some (digits, [])) :
    digits = text.filter (· != '_') ∧ (∀ c ∈ text, isPlainDigit c = true ∨ c = '_') ∧
      Separated text ∧ text.getLast? ≠ some '_' ∧ text.head? ≠ some '_' := by
  unfold groupedDigits? at grouped
  simp only [Option.ite_none_right_eq_some, Option.some.injEq, Prod.mk.injEq] at grouped
  obtain ⟨separated, rfl, nothing⟩ := grouped
  have whole : (text.takeWhile fun c => isPlainDigit c || c == '_') = text :=
    (List.takeWhile_prefix _).eq_of_length_le (List.drop_eq_nil_iff.1 nothing)
  rw [whole] at separated ⊢
  refine ⟨rfl, ?_, ?_⟩
  · intro c among
    rw [← whole] at among
    simpa using List.all_eq_true.1 List.all_takeWhile c among
  · cases text with
    | nil => simp [Separated]
    | cons c rest =>
        simp only [Bool.and_eq_true, bne_iff_ne, List.all_eq_true] at separated
        obtain ⟨⟨first, last⟩, apart⟩ := separated
        refine ⟨?_, last, fun same => first (Option.some.inj same)⟩
        intro pair among both
        simpa [both] using apart pair among

/-- What is left of a text that is read as an integer: a sign, and digits in groups. -/
theorem exists_of_readInt {text : List Char} {value : Int} (read : readInt text = .ok value) :
    ∃ sign rest digits, IsSign sign ∧ numeralText text = sign ++ rest ∧
      groupedDigits? isPlainDigit rest = some (digits, []) ∧ digits ≠ [] := by
  obtain ⟨sign, signed, split⟩ := exists_splitSign (numeralText text)
  unfold readInt at read
  split at read
  next negative rest cut =>
    rw [cut] at split
    split at read
    next => cases read
    next digits behind grouped =>
      split at read
      next => cases read
      next =>
        split at read
        next => cases read
        next filled =>
          obtain ⟨nonempty, rfl⟩ : digits ≠ [] ∧ behind = [] := by simpa using filled
          exact ⟨sign, rest, digits, signed, split, grouped, nonempty⟩

/-- Whatever is read as an integer is read as a float. -/
theorem readFloat?_isSome_of_readInt {text : List Char} {value : Int}
    (read : readInt text = .ok value) : (readFloat? text).isSome = true := by
  obtain ⟨sign, rest, digits, signed, split, grouped, nonempty⟩ := exists_of_readInt read
  obtain ⟨rfl, known, apart, last, first⟩ := separated_of_groupedDigits? grouped
  have dropped : dropUnderscores? none (sign ++ rest) =
      some (sign ++ rest.filter (· != '_')) := by
    have within (before : Option Char) := dropUnderscores?_of_separated known apart last before
      fun same => absurd same first
    rcases signed with rfl | rfl | rfl <;> simp [dropUnderscores?, within]
  have digits : ∀ c ∈ rest.filter (· != '_'), isPlainDigit c = true := by
    intro c among
    obtain ⟨inRest, other⟩ := List.mem_filter.1 among
    exact (known c inRest).resolve_right (bne_iff_ne.1 other)
  have finite : IsFinite isPlainDigit (rest.filter (· != '_') ++ []) :=
    .whole nonempty digits .absent
  rw [List.append_nil] at finite
  rw [readFloat?_isSome_iff, split, dropped]
  refine ⟨_, rfl, ?_⟩
  rw [splitSign_append signed (finite.unsigned isPlainDigit_of_mem_marks)]
  exact Or.inr finite

/-! ### The characters of what is read -/

/-- The characters of what is read as a float, in lower case, besides blanks and digits. -/
def floatMarks : List Char := "+-._einfaty".toList

/-- May the character stand in a text that is read as a float? -/
def isReadable (c : Char) : Bool :=
  isNumeralBlank c || isDigit c || floatMarks.contains (plainLower c)

theorem isReadable_iff (c : Char) :
    isReadable c = true ↔
      isNumeralBlank c = true ∨ isDigit c = true ∨ plainLower c ∈ floatMarks := by
  simp [isReadable, or_assoc]

theorem plainLower_mem_of_mem_marks : ∀ c ∈ marks, plainLower c ∈ floatMarks :=
  List.all_iff_forall_prop.1 (by decide)

theorem mem_of_dropUnderscores? {before : Option Char} {text plain : List Char}
    (dropped : dropUnderscores? before text = some plain) {c : Char} (among : c ∈ text) :
    c = '_' ∨ c ∈ plain := by
  fun_induction dropUnderscores? before text generalizing plain with
  | case1 => cases among
  | case2 before rest between ih =>
      rcases List.mem_cons.1 among with same | inRest
      · exact Or.inl same
      · exact ih dropped inRest
  | case3 => cases dropped
  | case4 before d rest other ih =>
      obtain ⟨kept, found, rfl⟩ := Option.map_eq_some_iff.1 dropped
      rcases List.mem_cons.1 among with same | inRest
      · exact Or.inr (same ▸ List.mem_cons_self)
      · exact (ih found inRest).imp_right (List.mem_cons_of_mem d)

theorem IsReal.mem {text : List Char} (real : IsReal text) {c : Char} (among : c ∈ text) :
    isDigit c = true ∨ plainLower c ∈ floatMarks := by
  rcases real with name | finite
  · have inName : plainLower c ∈ (String.ofList (text.map plainLower)).toList := by
      rw [String.toList_ofList]
      exact List.mem_map_of_mem among
    have letters : ∀ name ∈ specialNames, name.toList ⊆ floatMarks := by decide
    exact Or.inr (letters _ name inName)
  · exact (finite.mem among).imp isDigit_of_isPlainDigit (plainLower_mem_of_mem_marks c)

/-- A text that is read holds blanks, digits, and few other characters. -/
theorem isReadable_of_readFloat? {text : List Char} (read : (readFloat? text).isSome = true)
    {c : Char} (among : c ∈ text) : isReadable c = true := by
  obtain ⟨plain, dropped, real⟩ := (readFloat?_isSome_iff text).1 read
  obtain ⟨front, back, before, behind, split⟩ := exists_trimBoth isNumeralBlank text
  rw [isReadable_iff]
  rw [split, List.mem_append, List.mem_append] at among
  rcases among with inFront | inCore | inBack
  · exact Or.inl (before c inFront)
  · right
    cases digit : isDigit c with
    | true => exact Or.inl rfl
    | false =>
        -- A character that is no digit is still there when the text has been prepared.
        have inPrepared : c ∈ numeralText text := by
          rw [← plainDigit_of_not_isDigit digit]
          exact List.mem_map_of_mem inCore
        obtain ⟨sign, signed, signSplit⟩ := exists_splitSign plain
        rcases mem_of_dropUnderscores? dropped inPrepared with rfl | inPlain
        · exact Or.inr (by decide)
        · rw [signSplit, List.mem_append] at inPlain
          rcases inPlain with inSign | inRest
          · exact Or.inr (plainLower_mem_of_mem_marks c (mem_marks_of_sign signed inSign))
          · rw [← digit]
            exact real.mem inRest
  · exact Or.inl (behind c inBack)

/-! ### Single characters -/

theorem IsFinite.exists_digit {digit : Char → Bool} {text : List Char}
    (finite : IsFinite digit text) : ∃ c ∈ text, digit c = true := by
  cases finite with
  | whole nonempty digits scaled =>
      obtain ⟨c, among⟩ := List.exists_mem_of_ne_nil _ nonempty
      exact ⟨c, List.mem_append_left _ among, digits c among⟩
  | pointed nonempty digits scaled =>
      obtain ⟨c, among⟩ := List.exists_mem_of_ne_nil _ nonempty
      refine ⟨c, ?_, digits c among⟩
      simp only [List.mem_append, List.mem_cons] at among ⊢
      exact among.imp_right fun inFraction => Or.inr (Or.inl inFraction)

/-- A number of at most one character is a digit. -/
theorem IsReal.exists_digit {text : List Char} (real : IsReal text) (short : text.length ≤ 1) :
    ∃ c ∈ text, isDigit c = true := by
  rcases real with name | finite
  · -- Every name is longer.
    have long : ∀ name ∈ specialNames, 1 < name.toList.length := by decide
    have longer := long _ name
    rw [String.toList_ofList, List.length_map] at longer
    exact absurd short (Nat.not_le.2 longer)
  · obtain ⟨c, among, plain⟩ := finite.exists_digit
    exact ⟨c, among, isDigit_of_isPlainDigit plain⟩

theorem dropUnderscores?_sublist {before : Option Char} {text plain : List Char}
    (dropped : dropUnderscores? before text = some plain) : plain.Sublist text := by
  fun_induction dropUnderscores? before text generalizing plain with
  | case1 =>
      cases dropped
      exact List.Sublist.refl []
  | case2 before rest between ih => exact (ih dropped).cons '_'
  | case3 => cases dropped
  | case4 before c rest other ih =>
      obtain ⟨kept, found, rfl⟩ := Option.map_eq_some_iff.1 dropped
      exact (ih found).cons_cons c

/-- A single character that is read as a float is a digit. -/
theorem isDigit_of_readFloat? {c : Char} (read : (readFloat? [c]).isSome = true) :
    isDigit c = true := by
  obtain ⟨plain, dropped, real⟩ := (readFloat?_isSome_iff [c]).1 read
  -- What is left of the character is the character or nothing.
  have left : (splitSign plain).2.Sublist [plainDigit c] :=
    calc
      (splitSign plain).2.Sublist plain := splitSign_sublist plain
      plain.Sublist (numeralText [c]) := dropUnderscores?_sublist dropped
      (numeralText [c]).Sublist [plainDigit c] :=
        (trimBoth_sublist isNumeralBlank [c]).map plainDigit
  obtain ⟨d, among, digit⟩ := real.exists_digit left.length_le
  obtain rfl := List.mem_singleton.1 (left.subset among)
  cases own : isDigit c with
  | true => rfl
  | false => rwa [plainDigit_of_not_isDigit own, own] at digit

end AccessRules.Numeral
