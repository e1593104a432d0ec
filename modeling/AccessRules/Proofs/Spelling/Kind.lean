import AccessRules.Proofs.Spelling.Plain

/-!
# What words and numbers stand for

YAML tells the kind of a plain scalar from its text. For the words and numbers of a spelling it is
the kind that JSON gives them, and the value is the same, although YAML takes the sign off a float
and lowers its letters before it reads it.
-/

namespace AccessRules.Spelling

open AccessRules.Number

/-! ### Lower case -/

/-- The number with a small letter in front of its exponent. -/
def Numeral.lower : Numeral → Numeral
  | .int negative whole short => .int negative whole short
  | .float negative whole fraction exponent =>
      .float negative whole fraction
        (exponent.map fun exponent => { exponent with capital := false })

theorem map_plainLower_digits (digits : Digits) : digits.chars.map plainLower = digits.chars := by
  have keeps : ∀ c ∈ "0123456789".toList, plainLower c = c := List.all_iff_forall_prop.1 (by decide)
  exact (List.map_congr_left fun c among => keeps c (mem_digits (digits.digits c among))).trans
    (List.map_id _)

theorem map_plainLower_chars (numeral : Numeral) :
    numeral.chars.map plainLower = numeral.lower.chars := by
  have signs (negative : Bool) : (sign negative).map plainLower = sign negative := by
    cases negative <;> rfl
  cases numeral with
  | int negative whole short =>
      simp [Numeral.chars, Numeral.negative, Numeral.body, Numeral.lower, signs,
        map_plainLower_digits whole.toDigits]
  | float negative whole fraction exponent =>
      have point : plainLower '.' = '.' := rfl
      have exponents : (exponentChars exponent).map plainLower =
          exponentChars (exponent.map fun exponent => { exponent with capital := false }) := by
        cases exponent with
        | none => rfl
        | some exponent =>
            cases capital : exponent.capital <;> cases negative : exponent.negative <;>
              simp [exponentChars, Exponent.chars, capital, negative,
                map_plainLower_digits exponent.digits, plainLower]
      simp [Numeral.chars, Numeral.negative, Numeral.body, Numeral.lower, signs, point, exponents,
        map_plainLower_digits whole.toDigits, map_plainLower_digits fraction]

theorem lowerFrom_alphabet {text : List Char} (numeral : ∀ c ∈ text, c ∈ numeralAlphabet)
    (before : List Char) : Text.lowerFrom before text = text.map plainLower := by
  have each : ∀ c ∈ numeralAlphabet, c.toNat ≠ 0x3A3 ∧ c.toNat ≠ 0x130 ∧
      ((Text.CaseRun.map? Text.lowerRuns c.toNat).map Char.ofNat).getD c = plainLower c :=
    List.all_iff_forall_prop.1 (by decide +kernel)
  induction text generalizing before with
  | nil => rfl
  | cons c rest ih =>
      obtain ⟨first, others⟩ := List.forall_mem_cons.1 numeral
      obtain ⟨noSigma, noDot, lowered⟩ := each c first
      rw [Text.lowerFrom, ih others, Text.lowerChar, if_neg noSigma, if_neg noDot, lowered]
      rfl

theorem lower_chars (numeral : Numeral) : Text.lower numeral.chars = numeral.lower.chars := by
  rw [Text.lower, lowerFrom_alphabet fun c among => numeral.mem_alphabet among,
    map_plainLower_chars]

/-! ### Numbers among other scalars -/

/-- Which text is a number shows in front: no word begins like one. -/
theorem Numeral.text_ne (numeral : Numeral) {word : String}
    (other : noNumber word = true) : String.ofList numeral.chars ≠ word := by
  rintro rfl
  obtain ⟨c, rest, same, first⟩ := numeral.chars_eq_cons
  rw [same] at other
  refine not_mem_of_noNumber other (by rw [String.toList_ofList, List.head?_cons]) ?_
  obtain rfl | digit := first
  · decide
  · exact List.mem_cons_of_mem '-' (mem_digits digit)

theorem Numeral.contains_eq_false (numeral : Numeral) {words : List String}
    (others : words.all noNumber = true) :
    words.contains (String.ofList numeral.chars) = false := by
  rw [List.contains_eq_any_beq, List.any_eq_false]
  intro word among
  rw [beq_iff_eq]
  exact numeral.text_ne (List.all_eq_true.1 others word among)

end AccessRules.Spelling

namespace AccessRules.Yaml

open Spelling
open AccessRules.Number (isPlainDigit splitSign)

theorem unsigned_chars (numeral : Numeral) : unsigned numeral.chars = numeral.body := by
  obtain ⟨c, rest, same, digit⟩ := numeral.body_eq_cons
  rw [unsigned, Numeral.chars, splitSign_sign_append numeral.negative same digit]

theorem withoutFinalBreak_chars (numeral : Numeral) :
    withoutFinalBreak numeral.chars = numeral.chars := by
  rw [withoutFinalBreak, if_neg]
  rw [beq_iff_eq]
  intro last
  exact absurd (numeral.mem_alphabet (List.mem_of_getLast? last)) (by decide)

/-! ### Kinds -/

theorem grouped_of_digit {c : Char} (digit : isPlainDigit c = true) : isGroupedDigit c = true := by
  rw [isGroupedDigit, digit, Bool.true_or]

theorem isFloat_int (negative : Bool) (whole : Whole)
    (short : whole.chars.length ≤ Number.digitLimit) :
    isFloat (Numeral.int negative whole short).chars = false := by
  obtain ⟨c, rest, same, digit, -⟩ := whole.eq_cons
  have body : unsigned (Numeral.int negative whole short).chars = whole.chars := unsigned_chars _
  have run : whole.chars.takeWhile isGroupedDigit = whole.chars :=
    takeWhile_digits whole.digits fun _ => grouped_of_digit
  have noName : [".inf", ".Inf", ".INF"].contains (String.ofList whole.chars) = false :=
    (Numeral.int false whole short).contains_eq_false (by decide)
  have noNan : [".nan", ".NaN", ".NAN"].contains
      (String.ofList (Numeral.int negative whole short).chars) = false :=
    (Numeral.int negative whole short).contains_eq_false (by decide)
  simp only [isFloat, body, run, noName, noNan, List.drop_length, List.head?_nil]
  obtain ⟨first, others, same', start⟩ := (Numeral.int negative whole short).chars_eq_cons
  have noPoint : first ≠ '.' := by
    rintro rfl
    obtain start | start := start <;> cases start
  rw [same']
  simp [noPoint]

theorem isInt_int (negative : Bool) (whole : Whole)
    (short : whole.chars.length ≤ Number.digitLimit) :
    isInt (Numeral.int negative whole short).chars = true := by
  obtain ⟨c, rest, same, digit, others⟩ := whole.eq_cons
  have body : unsigned (Numeral.int negative whole short).chars = c :: rest :=
    (unsigned_chars _).trans same
  by_cases zero : c = '0'
  · subst zero
    obtain rfl := whole.alone rest same
    rw [isInt, body]
    rfl
  · have run : (c :: rest).dropWhile isGroupedDigit = [] := by
      have all : ∀ d ∈ c :: rest, isGroupedDigit d = true :=
        List.forall_mem_cons.2
          ⟨grouped_of_digit digit, fun d among => grouped_of_digit (others d among)⟩
      rw [← List.append_nil (c :: rest), List.dropWhile_append_of_pos all, List.dropWhile_nil]
    simp only [isInt, body]
    split
    case h_5 =>
      rw [run, List.head?_cons, Option.any_some, digit]
      rfl
    all_goals exact absurd (List.cons.inj ‹_›).1 zero

theorem isExponent_chars (exponent : Option Exponent) :
    isExponent (exponentChars exponent) = true := by
  cases exponent with
  | none => rfl
  | some exponent =>
      have digits : isRun isPlainDigit exponent.digits.chars = true := by
        simp [isRun, exponent.digits.nonempty, List.all_eq_true.2 exponent.digits.digits]
      cases capital : exponent.capital <;> cases negative : exponent.negative <;>
        simp [exponentChars, Exponent.chars, capital, negative, isExponent, digits]

theorem isFloat_float (negative : Bool) (whole : Whole) (fraction : Digits)
    (exponent : Option Exponent) :
    isFloat (Numeral.float negative whole fraction exponent).chars = true := by
  have stops : (exponentChars exponent).dropWhile isGroupedDigit = exponentChars exponent := by
    cases exponent with
    | none => rfl
    | some exponent => cases capital : exponent.capital <;>
        simp [exponentChars, Exponent.chars, capital, isGroupedDigit, isPlainDigit]
  have whole' : ∀ c ∈ whole.chars, isGroupedDigit c = true := fun c among =>
    grouped_of_digit (whole.digits c among)
  have fraction' : ∀ c ∈ fraction.chars, isGroupedDigit c = true := fun c among =>
    grouped_of_digit (fraction.digits c among)
  have body : unsigned (Numeral.float negative whole fraction exponent).chars =
      whole.chars ++ '.' :: (fraction.chars ++ exponentChars exponent) := unsigned_chars _
  have run : (whole.chars ++ '.' :: (fraction.chars ++ exponentChars exponent)).takeWhile
      isGroupedDigit = whole.chars := by
    rw [List.takeWhile_append_of_pos whole', List.takeWhile_cons_of_neg (by decide),
      List.append_nil]
  have behind : isExponent ((fraction.chars ++ exponentChars exponent).dropWhile isGroupedDigit) =
      true := by
    rw [List.dropWhile_append_of_pos fraction', stops, isExponent_chars]
  obtain ⟨c, rest, same, digit, -⟩ := whole.eq_cons
  have first : (whole.chars ++ '.' :: (fraction.chars ++ exponentChars exponent)).head?.any
      isPlainDigit = true := by
    simp [same, digit]
  simp only [isFloat, body, run, List.drop_left, first, List.head?_cons, List.tail_cons, behind]
  rfl

theorem text_nonempty (numeral : Numeral) : (String.ofList numeral.chars).isEmpty = false := by
  have other : String.ofList numeral.chars ≠ "" := numeral.text_ne (by decide)
  rw [Bool.eq_false_iff, ne_eq, String.isEmpty_iff]
  exact other

theorem text_no_truth (numeral : Numeral) :
    truthTexts.contains (String.ofList numeral.chars) = false :=
  numeral.contains_eq_false (by decide)

theorem ofPlain_int (negative : Bool) (whole : Whole)
    (short : whole.chars.length ≤ Number.digitLimit) :
    Tag.ofPlain (String.ofList (Numeral.int negative whole short).chars) = .int := by
  simp only [Tag.ofPlain, text_nonempty, String.toList_ofList, withoutFinalBreak_chars,
    text_no_truth, isFloat_int, isInt_int, Bool.false_eq_true, if_false, if_true]

theorem ofPlain_float (negative : Bool) (whole : Whole) (fraction : Digits)
    (exponent : Option Exponent) :
    Tag.ofPlain (String.ofList (Numeral.float negative whole fraction exponent).chars) =
      .float := by
  simp only [Tag.ofPlain, text_nonempty, String.toList_ofList, withoutFinalBreak_chars,
    text_no_truth, isFloat_float, Bool.false_eq_true, if_false, if_true]

/-! ### Values -/

theorem filter_chars (numeral : Numeral) : numeral.chars.filter (· != '_') = numeral.chars := by
  apply List.filter_eq_self.2
  intro c among
  rw [bne_iff_ne]
  rintro rfl
  exact absurd (numeral.mem_alphabet among) (by decide)

theorem intOf_int (negative : Bool) (whole : Whole)
    (short : whole.chars.length ≤ Number.digitLimit) :
    intOf (String.ofList (Numeral.int negative whole short).chars) =
      .ok (withSign negative (Number.digitsValue whole.chars)) := by
  obtain ⟨c, rest, same, digit, others⟩ := whole.eq_cons
  have split : splitSign (Numeral.int negative whole short).chars = (negative, c :: rest) := by
    rw [← same]
    exact splitSign_sign_append negative same digit
  rw [intOf, String.toList_ofList, filter_chars, split, same]
  by_cases zero : c = '0'
  · subst zero
    obtain rfl := whole.alone rest same
    cases negative <;> rfl
  · have noColon : (c :: rest).contains ':' = false := by
      have missing : ':' ∉ whole.chars := not_mem_digits whole.digits rfl
      rw [same] at missing
      simpa using missing
    have read := readInt_whole whole short
    rw [same] at read
    simp only
    split
    · contradiction
    · exact absurd (List.cons.inj ‹_›).1 zero
    · exact absurd (List.cons.inj ‹_›).1 zero
    · exact absurd (List.cons.inj ‹_›).1 zero
    · exact absurd (List.cons.inj ‹_›).1 zero
    · simp only [noColon, Bool.false_eq_true, if_false, Number.parseInt, String.toList_ofList, read]
      rfl

theorem floatOf_float (negative : Bool) (whole : Whole) (fraction : Digits)
    (exponent : Option Exponent) :
    floatOf (String.ofList (Numeral.float negative whole fraction exponent).chars) =
      .ok ((parts whole fraction exponent).toFloat negative) := by
  obtain ⟨small, lowered, same⟩ : ∃ small,
      (Numeral.float negative whole fraction exponent).lower =
          .float negative whole fraction small ∧
        parts whole fraction small = parts whole fraction exponent :=
    ⟨_, rfl, by cases exponent <;> rfl⟩
  have body : (Numeral.float negative whole fraction small).body =
      (Numeral.float false whole fraction small).chars := rfl
  obtain ⟨c, rest, shape, digit⟩ := (Numeral.float negative whole fraction small).body_eq_cons
  have split : splitSign (Numeral.float negative whole fraction small).chars =
      (negative, (Numeral.float negative whole fraction small).body) :=
    splitSign_sign_append negative shape digit
  have nonempty : (Numeral.float negative whole fraction small).chars.isEmpty = false := by
    obtain ⟨c, rest, shape, -⟩ := (Numeral.float negative whole fraction small).chars_eq_cons
    rw [shape]
    rfl
  have noName (name : String) (other : noNumber name = true) :
      (String.ofList (Numeral.float negative whole fraction small).body == name) = false := by
    rw [beq_eq_false_iff_ne, body]
    exact (Numeral.float false whole fraction small).text_ne other
  have noColon : (Numeral.float negative whole fraction small).body.contains ':' = false := by
    rw [List.contains_eq_mem, decide_eq_false_iff_not]
    exact fun among => absurd (Numeral.mem_alphabet_of_body among) (by decide)
  have read : Number.readSigned? negative (Numeral.float negative whole fraction small).body =
      some ((parts whole fraction exponent).toFloat negative) := by
    have signed := readSigned?_float negative false whole fraction small
    rw [same, Bool.bne_false] at signed
    exact signed
  simp only [floatOf, String.toList_ofList, filter_chars, lower_chars, lowered, nonempty, split,
    noName ".inf" (by decide), noName ".nan" (by decide), noColon, Bool.false_eq_true, if_false,
    Number.parseSigned, read]

/-- The value of a number. -/
theorem scalarValue_number (numeral : Numeral) :
    scalarValue (Tag.ofPlain (String.ofList numeral.chars)) (String.ofList numeral.chars) =
      .ok numeral.document := by
  cases numeral with
  | int negative whole short =>
      rw [ofPlain_int]
      simp only [scalarValue, intOf_int]
      rfl
  | float negative whole fraction exponent =>
      rw [ofPlain_float]
      simp only [scalarValue, floatOf_float]
      rfl

theorem scalarValue_null : scalarValue (Tag.ofPlain "null") "null" = .ok .null := rfl

theorem scalarValue_truth (value : Bool) :
    scalarValue (Tag.ofPlain (if value then "true" else "false"))
      (if value then "true" else "false") = .ok (.bool value) := by
  cases value <;> rfl

end AccessRules.Yaml
