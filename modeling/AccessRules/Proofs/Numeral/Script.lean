import AccessRules.Condition.Arithmetic
import AccessRules.Document.Guard
import AccessRules.Proofs.Numeral.Float

/-!
# Which texts are guarded

Conditions are shared with clients that read numbers as JavaScript does. A text that is a number
here and none there is to be guarded. The check for it goes by digits and blanks of every script,
where JavaScript goes by ASCII digits and white space of its own, so some texts slip through.

* `IsScriptNumeral`: the texts that JavaScript reads as numbers;
* `IsDisguised`: numerals of the common grammar that owe their being read to a digit of another
  script, or to a next-line control around them;
* **`guarding_iff`**: the guarded texts are those that are read here, not there, and are not
  disguised; and the disguised texts are exactly those that can still be converted although
  JavaScript does not read them.
-/

namespace AccessRules.Numeral

open AccessRules.Number AccessRules.Text AccessRules.Condition

/-! ### Numbers of JavaScript -/

/-- White space and line ends of JavaScript. -/
def scriptBlanks : Ranges :=
  [(0x9, 0xD), (0x20, 0x20), (0xA0, 0xA0), (0x1680, 0x1680), (0x2000, 0x200A), (0x2028, 0x2029),
   (0x202F, 0x202F), (0x205F, 0x205F), (0x3000, 0x3000), (0xFEFF, 0xFEFF)]

/-- Is the character white space of JavaScript? -/
def isScriptBlank (c : Char) : Bool := scriptBlanks.contains c

/-- Is the character a digit in a base up to sixteen? -/
def isDigitIn (base : Nat) (c : Char) : Bool := (hexValue? c).any (· < base)

/-- The letters that announce a base behind a zero. -/
def baseLetters : List (Char × Nat) :=
  [('b', 2), ('B', 2), ('o', 8), ('O', 8), ('x', 16), ('X', 16)]

/-- The texts that JavaScript reads as numbers. -/
inductive IsScriptNumeral : List Char → Prop where
  | blank {text : List Char} (blank : ∀ c ∈ text, isScriptBlank c = true) : IsScriptNumeral text
  | decimal {text : List Char} (decimal : IsDecimal isPlainDigit isScriptBlank text) :
      IsScriptNumeral text
  | based {front digits back : List Char} {letter : Char} {base : Nat}
      (before : ∀ c ∈ front, isScriptBlank c = true) (known : (letter, base) ∈ baseLetters)
      (nonempty : digits ≠ []) (all : ∀ c ∈ digits, isDigitIn base c = true)
      (behind : ∀ c ∈ back, isScriptBlank c = true) :
      IsScriptNumeral (front ++ ('0' :: letter :: digits ++ back))

/-- Is the character a digit of another script, or the next-line control? Either may stand in a
numeral here, and neither in one of JavaScript. -/
def isForeign (c : Char) : Bool := (isDigit c && !isPlainDigit c) || c == '\u0085'

/-- A numeral that has something in it that JavaScript takes neither for a digit nor for a
blank. -/
def IsDisguised (text : List Char) : Prop :=
  IsDecimal isDigit isNumeralBlank text ∧ ∃ c ∈ text, isForeign c = true

theorem toNat_lt_of_isPlainDigit {c : Char} (digit : isPlainDigit c = true) : c.toNat < 128 := by
  have small : ∀ c ∈ "0123456789".toList, c.toNat < 128 := List.all_iff_forall_prop.1 (by decide)
  exact small c (Spelling.mem_digits digit)

theorem toNat_lt_of_isDigitIn {base : Nat} {c : Char} (digit : isDigitIn base c = true) :
    c.toNat < 128 := by
  have below (low high : Char) (small : high.toNat < 128) (inRange : low ≤ c ∧ c ≤ high) :
      c.toNat < 128 := Nat.lt_of_le_of_lt (UInt32.le_iff_toNat_le.1 inRange.2) small
  unfold isDigitIn hexValue? at digit
  split at digit
  next inRange => exact below _ _ (by decide) inRange
  next =>
    split at digit
    next inRange => exact below _ _ (by decide) inRange
    next =>
      split at digit
      next inRange => exact below _ _ (by decide) inRange
      next => cases digit

/-- Numbers of JavaScript consist of its blanks and of ASCII. -/
theorem IsScriptNumeral.mem {text : List Char} (script : IsScriptNumeral text) {c : Char}
    (among : c ∈ text) : isScriptBlank c = true ∨ c.toNat < 128 := by
  cases script with
  | blank blank => exact Or.inl (blank c among)
  | decimal decimal =>
      have small : ∀ c ∈ marks, c.toNat < 128 := List.all_iff_forall_prop.1 (by decide)
      exact (decimal.mem among).imp_right fun known => known.elim toNat_lt_of_isPlainDigit (small c)
  | based before known nonempty all behind =>
      have small : ∀ entry ∈ baseLetters, entry.1.toNat < 128 := by decide
      simp only [List.mem_append, List.mem_cons] at among
      rcases among with inFront | (rfl | rfl | inDigits) | inBack
      · exact Or.inl (before c inFront)
      · exact Or.inr (by decide)
      · exact Or.inr (small _ known)
      · exact Or.inr (toNat_lt_of_isDigitIn (all c inDigits))
      · exact Or.inl (behind c inBack)

/-! ### Characters that only this side knows -/

theorem isForeign_iff (c : Char) :
    isForeign c = true ↔ (isDigit c = true ∧ isPlainDigit c = false) ∨ c = '\u0085' := by
  simp [isForeign]

theorem isPlainDigit_of_toNat_lt {c : Char} (digit : isDigit c = true) (small : c.toNat < 128) :
    isPlainDigit c = true := by
  unfold isDigit digitValue? at digit
  rw [if_pos small] at digit
  split at digit
  next plain => simpa [isPlainDigit, Char.le_def, UInt32.le_iff_toNat_le] using plain
  next => cases digit

theorem toNat_ge_of_isForeign {c : Char} (foreign : isForeign c = true) : 128 ≤ c.toNat := by
  rcases (isForeign_iff c).1 foreign with ⟨digit, other⟩ | rfl
  · rw [← Nat.not_lt]
    intro small
    rw [isPlainDigit_of_toNat_lt digit small] at other
    cases other
  · decide

theorem isScriptBlank_of_isForeign {c : Char} (foreign : isForeign c = true) :
    isScriptBlank c = false := by
  rcases (isForeign_iff c).1 foreign with ⟨digit, -⟩ | rfl
  · exact contains_of_isDigit (by decide) digit
  · decide

theorem not_isScriptNumeral_of_isDisguised {text : List Char} (disguised : IsDisguised text) :
    ¬ IsScriptNumeral text := by
  intro script
  obtain ⟨c, among, foreign⟩ := disguised.2
  rcases script.mem among with blank | small
  · rw [isScriptBlank_of_isForeign foreign] at blank
    cases blank
  · exact absurd small (Nat.not_lt.2 (toNat_ge_of_isForeign foreign))

/-! ### Numbers of both sides -/

/-- The blanks of numerals are those of JavaScript but for two characters. -/
theorem isScriptBlank_iff (c : Char) :
    isScriptBlank c = true ↔ (isNumeralBlank c = true ∧ c ≠ '\u0085') ∨ c = '\uFEFF' := by
  have code (d : Char) : c = d ↔ c.toNat = d.toNat := Char.toNat_inj.symm
  have nextLine : '\u0085'.toNat = 0x85 := rfl
  have mark : '\uFEFF'.toNat = 0xFEFF := rfl
  simp only [isScriptBlank, scriptBlanks, isNumeralBlank, isBlank, blanks, Ranges.contains_cons,
    Ranges.contains_nil, Bool.or_false, Bool.or_eq_true, Bool.and_eq_true, Bool.not_eq_true',
    decide_eq_true_eq, Bool.and_eq_false_iff, decide_eq_false_iff_not, ne_eq, code, nextLine, mark]
  omega

theorem isBlank_of_isNumeralBlank {c : Char} (blank : isNumeralBlank c = true) :
    isBlank c = true := by
  rw [isNumeralBlank, Bool.and_eq_true] at blank
  exact blank.1

/-- A blank that may stand in a text that is read is one that may surround a numeral. -/
theorem isNumeralBlank_of_isReadable {c : Char} (readable : isReadable c = true)
    (blank : isBlank c = true) : isNumeralBlank c = true := by
  rw [isNumeralBlank, blank, Bool.true_and, Bool.not_eq_true', ← Bool.not_eq_true]
  intro control
  simp only [Bool.and_eq_true, decide_eq_true_eq] at control
  have unread : ∀ c ∈ (List.range' 0x1C 4).map Char.ofNat, isReadable c = false :=
    List.all_iff_forall_prop.1 (by decide)
  rw [unread c (Spelling.mem_range 0x1C 4 control.1 (Nat.lt_succ_of_le control.2))] at readable
  cases readable

theorem not_isReal_nil : ¬ IsReal [] := by
  rw [IsReal, ← decimalParts?_isSome_iff]
  decide

/-- What is read as a float and a number of JavaScript counts as a number for every client. -/
theorem isDecimal_of_isScriptNumeral {text : List Char} (read : (readFloat? text).isSome = true)
    (script : IsScriptNumeral text) : IsDecimal isDigit isBlank text := by
  have unmarked : ∀ c ∈ text, c ≠ '\uFEFF' := by
    rintro _ among rfl
    exact absurd (isReadable_of_readFloat? read among) (by decide)
  have trimmed {c : Char} (among : c ∈ text) (blank : isScriptBlank c = true) :
      isNumeralBlank c = true :=
    (((isScriptBlank_iff c).1 blank).resolve_right (unmarked c among)).1
  cases script with
  | blank blank =>
      -- Nothing is left of blanks, and nothing is not read.
      have nothing : numeralText (text ++ ([] ++ [])) = [] := by
        rw [numeralText, trimBoth_surrounded (fun c among => trimmed among (blank c among))]
        · rfl
        · exact List.forall_mem_nil _
        · exact List.forall_mem_nil _
      rw [List.append_nil, List.append_nil] at nothing
      obtain ⟨plain, dropped, real⟩ := (readFloat?_isSome_iff text).1 read
      rw [nothing] at dropped
      cases dropped
      exact absurd real not_isReal_nil
  | decimal decimal =>
      exact decimal.mono (fun _ _ => isDigit_of_isPlainDigit)
        fun c among blank => isBlank_of_isNumeralBlank (trimmed among blank)
  | @based front digits back letter base before known nonempty all behind =>
      have unread : ∀ entry ∈ baseLetters, isReadable entry.1 = false := by decide
      have readable : isReadable letter = true := isReadable_of_readFloat? read (by simp)
      rw [unread _ known] at readable
      cases readable

/-- A number for every client that is read as a float is one of JavaScript unless it is
disguised. -/
theorem isScriptNumeral_or_isDisguised {text : List Char}
    (read : (readFloat? text).isSome = true) (decimal : IsDecimal isDigit isBlank text) :
    IsScriptNumeral text ∨ IsDisguised text := by
  have trimmed : ∀ c ∈ text, isBlank c = true → isNumeralBlank c = true := fun c among =>
    isNumeralBlank_of_isReadable (isReadable_of_readFloat? read among)
  by_cases foreign : ∃ c ∈ text, isForeign c = true
  · exact Or.inr ⟨decimal.mono (fun _ _ => id) trimmed, foreign⟩
  · left
    have own : ∀ c ∈ text, isForeign c = false := by simpa using foreign
    refine .decimal (decimal.mono (fun c among digit => ?_) fun c among blank => ?_)
    · have plain := own c among
      rw [isForeign, digit, Bool.true_and, Bool.or_eq_false_iff, Bool.not_eq_false'] at plain
      exact plain.1
    · have noBreak : c ≠ '\u0085' := by
        rintro rfl
        exact absurd (own _ among) (by decide)
      exact (isScriptBlank_iff c).2 (Or.inl ⟨trimmed c among blank, noBreak⟩)

/-! ### Guarded texts -/

theorem isOddNumeral_iff (text : String) :
    isOddNumeral text = true ↔ (readFloat? text.toList).isSome = true ∧
      ¬ IsScriptNumeral text.toList ∧ ¬ IsDisguised text.toList := by
  rw [isOddNumeral, Bool.and_eq_true, Bool.not_eq_true', ← Bool.not_eq_true, isPlainNumeral_iff]
  constructor
  · rintro ⟨odd, read⟩
    refine ⟨read, fun script => odd (isDecimal_of_isScriptNumeral read script), ?_⟩
    intro disguised
    exact odd (disguised.1.mono (fun _ _ => id) fun _ _ => isBlank_of_isNumeralBlank)
  · rintro ⟨read, unread, undisguised⟩
    refine ⟨fun decimal => ?_, read⟩
    exact (isScriptNumeral_or_isDisguised read decimal).elim unread undisguised

theorem guarding_text (text : String) :
    (Document.text text).guarding = if isOddNumeral text then .guarded text else .text text := by
  rw [Document.guarding]

theorem guarding_text_iff (text : String) :
    (Document.text text).guarding = .guarded text ↔ isOddNumeral text = true := by
  rw [guarding_text]
  cases isOddNumeral text <;> simp

/-- Is the document converted to a number, be it a float or an integer? -/
def IsConverted (document : Document) : Prop :=
  (∃ value, textToFloat document = .ok value) ∨ ∃ value, textToInt document = .ok value

theorem exists_parseFloat_iff (text : String) :
    (∃ value, parseFloat text = .ok value) ↔ (readFloat? text.toList).isSome = true := by
  rw [parseFloat, parseSigned, ← readFloat?]
  cases readFloat? text.toList <;> simp

theorem readFloat?_isSome_of_parseInt {text : String} {value : Int}
    (read : parseInt text = .ok value) : (readFloat? text.toList).isSome = true := by
  unfold parseInt at read
  split at read
  next found => exact readFloat?_isSome_of_readInt found
  next => cases read
  next => cases read

theorem isConverted_text_iff (text : String) :
    IsConverted (.text text) ↔ (readFloat? text.toList).isSome = true := by
  rw [← exists_parseFloat_iff]
  constructor
  · rintro (float | ⟨value, read⟩)
    · exact float
    · exact (exists_parseFloat_iff text).2 (readFloat?_isSome_of_parseInt read)
  · exact Or.inl

theorem not_isConverted_guarded (text : String) : ¬ IsConverted (.guarded text) := by
  rintro (⟨value, read⟩ | ⟨value, read⟩) <;> cases read

/-- **Guarded texts.** A text is guarded if and only if it is read as a float here, JavaScript
reads it as no number, and it is not disguised. The disguised texts are the gap in the guard:
they are exactly the texts that reach comparisons in a form that is converted to a number,
although JavaScript reads them as none. -/
theorem guarding_iff (text : String) :
    ((Document.text text).guarding = .guarded text ↔
      (∃ value, parseFloat text = .ok value) ∧ ¬ IsScriptNumeral text.toList ∧
        ¬ IsDisguised text.toList) ∧
    (IsConverted (Document.text text).guarding ∧ ¬ IsScriptNumeral text.toList ↔
      IsDisguised text.toList) := by
  rw [guarding_text_iff, exists_parseFloat_iff, isOddNumeral_iff]
  refine ⟨Iff.rfl, ?_⟩
  rw [guarding_text]
  constructor
  · rintro ⟨converted, unread⟩
    cases odd : isOddNumeral text with
    | true =>
        rw [odd, if_pos rfl] at converted
        exact absurd converted (not_isConverted_guarded text)
    | false =>
        rw [odd, if_neg Bool.false_ne_true, isConverted_text_iff] at converted
        rw [← Bool.not_eq_true, isOddNumeral_iff] at odd
        by_cases disguised : IsDisguised text.toList
        · exact disguised
        · exact absurd ⟨converted, unread, disguised⟩ odd
  · intro disguised
    have plain : ¬ isOddNumeral text = true := fun odd =>
      ((isOddNumeral_iff text).1 odd).2.2 disguised
    rw [if_neg plain, isConverted_text_iff]
    exact ⟨readFloat?_isSome disguised.1, not_isScriptNumeral_of_isDisguised disguised⟩

/-- A number in the digits of another script is not guarded: it is converted, and JavaScript does
not read it. -/
theorem guarding_misses_other_digits :
    (Document.text "١٢").guarding ≠ .guarded "١٢" ∧
      (∃ value, parseFloat "١٢" = .ok value) ∧ ¬ IsScriptNumeral "١٢".toList := by
  have disguised : IsDisguised "١٢".toList := by
    have decimal : IsDecimal isDigit isBlank "١٢".toList := (isPlainNumeral_iff _).1 (by decide)
    have trimmed : ∀ c ∈ "١٢".toList, isBlank c = true → isNumeralBlank c = true :=
      List.all_iff_forall_prop.1 (by decide)
    exact ⟨decimal.mono (fun _ _ => id) trimmed, '١', by decide, by decide⟩
  refine ⟨?_, ?_, not_isScriptNumeral_of_isDisguised disguised⟩
  · rw [ne_eq, guarding_text_iff, isOddNumeral_iff]
    exact fun odd => odd.2.2 disguised
  · rw [exists_parseFloat_iff]
    exact readFloat?_isSome disguised.1

end AccessRules.Numeral
