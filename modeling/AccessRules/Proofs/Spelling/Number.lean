import AccessRules.Proofs.Spelling.Basic
import AccessRules.Number.Parse
import AccessRules.Text.LetterCase

/-!
# Numbers of both readers

Both readers hand a number to the same readers of numerals: JSON with its sign, YAML without it and
in lower case. The characters of numbers are few (`numeralAlphabet`), so what matters about each of
them is checked one by one.
-/

namespace AccessRules.Spelling

open AccessRules.Number

/-- The characters of numbers. -/
def numeralAlphabet : List Char := "0123456789.+-eE".toList

/-! ### The characters of numbers -/

theorem mem_alphabet_of_digit {c : Char} (digit : isPlainDigit c = true) : c ∈ numeralAlphabet :=
  List.mem_append_left ".+-eE".toList (mem_digits digit)

theorem Exponent.mem_alphabet {exponent : Exponent} {c : Char} (among : c ∈ exponent.chars) :
    c ∈ numeralAlphabet := by
  rw [chars, List.mem_cons, List.mem_cons] at among
  obtain rfl | rfl | digit := among
  · cases exponent.capital <;> decide
  · cases exponent.negative <;> decide
  · exact mem_alphabet_of_digit (exponent.digits.digits c digit)

theorem mem_alphabet_of_exponentChars {exponent : Option Exponent} {c : Char}
    (among : c ∈ exponentChars exponent) : c ∈ numeralAlphabet := by
  cases exponent with
  | none => cases among
  | some exponent => exact exponent.mem_alphabet among

theorem Numeral.mem_alphabet_of_body {numeral : Numeral} {c : Char} (among : c ∈ numeral.body) :
    c ∈ numeralAlphabet := by
  cases numeral with
  | int negative whole short => exact mem_alphabet_of_digit (whole.digits c among)
  | float negative whole fraction exponent =>
      simp only [body, List.mem_append, List.mem_cons] at among
      obtain digit | rfl | digit | inExponent := among
      · exact mem_alphabet_of_digit (whole.digits c digit)
      · decide
      · exact mem_alphabet_of_digit (fraction.digits c digit)
      · exact mem_alphabet_of_exponentChars inExponent

theorem mem_alphabet_of_sign {negative : Bool} {c : Char} (among : c ∈ sign negative) :
    c ∈ numeralAlphabet := by
  cases negative with
  | true =>
      obtain rfl : c = '-' := by simpa [sign] using among
      decide
  | false => cases among

theorem Numeral.mem_alphabet (numeral : Numeral) {c : Char} (among : c ∈ numeral.chars) :
    c ∈ numeralAlphabet := by
  obtain inSign | inBody := List.mem_append.1 among
  · exact mem_alphabet_of_sign inSign
  · exact mem_alphabet_of_body inBody

/-! ### Preparing a numeral -/

theorem dropUnderscores?_eq_self {text : List Char} (none : '_' ∉ text) (before : Option Char) :
    dropUnderscores? before text = some text := by
  induction text generalizing before with
  | nil => rfl
  | cons c rest ih =>
      obtain ⟨other, others⟩ := not_or.1 (mt List.mem_cons.2 none)
      rw [dropUnderscores?, ih others]
      · rfl
      · exact fun same => other same.symm

theorem numeralText_eq_self {text : List Char} (numeral : ∀ c ∈ text, c ∈ numeralAlphabet) :
    numeralText text = text := by
  have solid : ∀ c ∈ numeralAlphabet, Text.isNumeralBlank c = false :=
    List.all_iff_forall_prop.1 (by decide)
  have plain : ∀ c ∈ numeralAlphabet, plainDigit c = c := List.all_iff_forall_prop.1 (by decide)
  rw [numeralText, Text.trimBoth_eq_self fun c among => solid c (numeral c among)]
  exact (List.map_congr_left fun c among => plain c (numeral c among)).trans (List.map_id _)

theorem splitSign_sign_append (negative : Bool) {body : List Char} {c : Char} {rest : List Char}
    (same : body = c :: rest) (digit : isPlainDigit c = true) :
    splitSign (sign negative ++ body) = (negative, body) := by
  cases negative with
  | true => rfl
  | false =>
      subst same
      rw [sign, if_neg Bool.false_ne_true, List.nil_append, splitSign]
      · intro others same
        cases same
        cases digit
      · intro others same
        cases same
        cases digit

/-! ### Integers -/

theorem takeWhile_digits {front : List Char} (digits : ∀ c ∈ front, isPlainDigit c = true)
    {p : Char → Bool} (accepts : ∀ c, isPlainDigit c = true → p c = true) :
    front.takeWhile p = front := by
  have all : (front ++ []).takeWhile p = front ++ [] :=
    List.takeWhile_append_of_pos fun c among => accepts c (digits c among)
  rwa [List.append_nil] at all

theorem not_mem_digits {front : List Char} (digits : ∀ c ∈ front, isPlainDigit c = true) {c : Char}
    (other : isPlainDigit c = false) : c ∉ front := by
  intro among
  rw [digits c among] at other
  cases other

/-- Digits alone are digits in groups. -/
theorem groupedDigits?_eq_some {front : List Char} (nonempty : front ≠ [])
    (digits : ∀ c ∈ front, isPlainDigit c = true) :
    groupedDigits? isPlainDigit front = some (front, []) := by
  have run : (front.takeWhile fun c => isPlainDigit c || c == '_') = front :=
    takeWhile_digits digits fun c digit => by rw [digit, Bool.true_or]
  have noScore : '_' ∉ front := not_mem_digits digits rfl
  have kept : front.filter (· != '_') = front :=
    List.filter_eq_self.2 fun c among => bne_iff_ne.2 fun same => noScore (same ▸ among)
  have apart : ('_', '_') ∉ front.zip front.tail := fun among =>
    noScore (List.of_mem_zip among).1
  obtain ⟨c, rest, rfl⟩ := List.exists_cons_of_ne_nil nonempty
  have last : (c :: rest).getLast? ≠ some '_' := fun same =>
    noScore (List.mem_of_getLast? same)
  have first : c ≠ '_' := fun same => noScore (same ▸ List.mem_cons_self)
  simp only [List.tail_cons] at apart
  simp [groupedDigits?, run, kept, apart, last, first]

theorem readInt_whole (whole : Whole) (short : whole.chars.length ≤ digitLimit) :
    readInt whole.chars = .ok (digitsValue whole.chars) := by
  obtain ⟨c, rest, same, digit, -⟩ := whole.eq_cons
  have plain : numeralText whole.chars = whole.chars :=
    numeralText_eq_self fun c among => mem_alphabet_of_digit (whole.digits c among)
  have split : splitSign whole.chars = (false, whole.chars) :=
    splitSign_sign_append false same digit
  have noLonger : ¬ whole.chars.length > digitLimit := Nat.not_lt.2 short
  simp only [readInt, plain, split, groupedDigits?_eq_some whole.nonempty whole.digits,
    if_neg noLonger]
  simp [whole.nonempty]

/-! ### Floats -/

theorem decimalParts?_eq_some (whole : Whole) (fraction : Digits) (exponent : Option Exponent) :
    decimalParts? (whole.chars ++ '.' :: (fraction.chars ++ exponentChars exponent)) =
      some (parts whole fraction exponent) := by
  have front : (whole.chars ++ '.' :: (fraction.chars ++ exponentChars exponent)).takeWhile
      isPlainDigit = whole.chars := by
    rw [List.takeWhile_append_of_pos whole.digits]
    exact List.append_nil _
  have behind : (whole.chars ++ '.' :: (fraction.chars ++ exponentChars exponent)).dropWhile
      isPlainDigit = '.' :: (fraction.chars ++ exponentChars exponent) := by
    rw [List.dropWhile_append_of_pos whole.digits]
    rfl
  have stops : (exponentChars exponent).takeWhile isPlainDigit = [] ∧
      (exponentChars exponent).dropWhile isPlainDigit = exponentChars exponent := by
    cases exponent with
    | none => exact ⟨rfl, rfl⟩
    | some exponent =>
        cases capital : exponent.capital <;>
          simp only [exponentChars, Exponent.chars, capital, Option.map_some, Option.getD_some] <;>
          exact ⟨rfl, rfl⟩
  simp only [decimalParts?, front, behind, List.takeWhile_append_of_pos fraction.digits,
    List.dropWhile_append_of_pos fraction.digits, stops, List.append_nil]
  cases exponent with
  | none => simp [whole.nonempty, exponentChars, parts]
  | some exponent =>
      have all : exponent.digits.chars.all isPlainDigit = true :=
        List.all_eq_true.2 exponent.digits.digits
      cases capital : exponent.capital <;> cases negative : exponent.negative <;>
        simp [whole.nonempty, exponentChars, Exponent.chars, capital, negative, splitSign, all,
          exponent.digits.nonempty, parts, Exponent.value]

/-- No number begins like the word. -/
def noNumber (word : String) : Bool :=
  word.toList.head?.all fun c => !"-0123456789".toList.contains c

theorem not_mem_of_noNumber {word : String} (other : noNumber word = true) {c : Char}
    (first : word.toList.head? = some c) : c ∉ "-0123456789".toList := by
  rw [noNumber, first, Option.all_some, Bool.not_eq_true', List.contains_eq_mem,
    decide_eq_false_iff_not] at other
  exact other

/-- A numeral that begins with a digit is no name of a special value. -/
theorem magnitude?_eq {c : Char} (digit : isPlainDigit c = true) (negative : Bool)
    (rest : List Char) :
    magnitude? negative (c :: rest) = (decimalParts? (c :: rest)).map (·.toFloat negative) := by
  have lowered : plainLower c ∈ "0123456789".toList := by
    have keeps : ∀ d ∈ "0123456789".toList, plainLower d ∈ "0123456789".toList :=
      List.all_iff_forall_prop.1 (by decide)
    exact keeps c (mem_digits digit)
  have noName (name : String) (other : noNumber name = true) :
      (String.ofList ((c :: rest).map plainLower) == name) = false := by
    rw [beq_eq_false_iff_ne]
    rintro rfl
    rw [List.map_cons] at other
    refine not_mem_of_noNumber other ?_ (List.mem_cons_of_mem '-' lowered)
    rw [String.toList_ofList, List.head?_cons]
  simp only [magnitude?, noName "inf" (by decide), noName "infinity" (by decide),
    noName "nan" (by decide), Bool.or_self, Bool.false_eq_true, if_false]

/-- A float is read with its own sign, and with one that was cut off before. -/
theorem readSigned?_float (outer inner : Bool) (whole : Whole) (fraction : Digits)
    (exponent : Option Exponent) :
    readSigned? outer (sign inner ++ (Numeral.float inner whole fraction exponent).body) =
      some ((parts whole fraction exponent).toFloat (outer != inner)) := by
  have inAlphabet : ∀ c ∈ sign inner ++ (Numeral.float inner whole fraction exponent).body,
      c ∈ numeralAlphabet := fun c among =>
    (Numeral.float inner whole fraction exponent).mem_alphabet among
  have noScore : '_' ∉ sign inner ++ (Numeral.float inner whole fraction exponent).body :=
    fun among => absurd (inAlphabet '_' among) (by decide)
  obtain ⟨c, rest, same, digit⟩ := (Numeral.float inner whole fraction exponent).body_eq_cons
  have split := splitSign_sign_append inner same digit
  simp only [readSigned?, numeralText_eq_self inAlphabet, dropUnderscores?_eq_self noScore, split,
    bind, Option.bind]
  rw [same, magnitude?_eq digit, ← same, Numeral.body, decimalParts?_eq_some, Option.map_some]

end AccessRules.Spelling
