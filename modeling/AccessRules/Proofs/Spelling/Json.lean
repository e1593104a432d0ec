import AccessRules.Proofs.Spelling.Number

/-!
# JSON reads spellings

The JSON reader gives the document of a spelling, and leaves what follows it
(`Json.value_write`).
-/

namespace AccessRules.Json

open Spelling
open AccessRules.Number (isPlainDigit)

/-! ### Blanks -/

theorem skipSpace_gap (gap : Gap) (rest : List Char) :
    skipSpace (gap.chars ++ rest) = skipSpace rest := by
  apply List.dropWhile_append_of_pos
  intro c among
  obtain rfl | rfl | rfl := gap.blank c among <;> rfl

theorem skipSpace_spaces (count : Nat) (rest : List Char) :
    skipSpace (List.replicate count ' ' ++ rest) = skipSpace rest := by
  apply List.dropWhile_append_of_pos
  intro c among
  obtain rfl := List.eq_of_mem_replicate among
  rfl

theorem skipSpace_cons {c : Char} (solid : isSpace c = false) (rest : List Char) :
    skipSpace (c :: rest) = c :: rest :=
  List.dropWhile_cons_of_neg (by simp [solid])

theorem skipSpace_write (spelling : Spelling) (rest : List Char) :
    skipSpace (spelling.write rest) = spelling.write rest := by
  have solid : ∀ c ∈ startAlphabet, isSpace c = false := List.all_iff_forall_prop.1 (by decide)
  obtain ⟨c, others, same, start⟩ := spelling.write_eq_cons rest
  rw [same, skipSpace_cons (solid c start)]

/-! ### Texts -/

/-- Characters inside quotes are read one by one. -/
theorem textBody_letter (letter : Letter) (rest : List Char) :
    textBody (letter.chars ++ rest) =
      (textBody rest).map fun (chars, rest) => (letter.char :: chars, rest) := by
  cases letter with
  | plain c allowed inLine visible special =>
      obtain ⟨noQuote, noSlash⟩ := special
      have notControl : ¬ c.toNat < 0x20 := Nat.not_lt.2 visible
      rw [Letter.chars, List.singleton_append, textBody]
      · cases textBody rest <;> simp [notControl, noSlash, Letter.char]
      all_goals simp_all
  | short letter c stands =>
      have noCode : letter ≠ 'u' := by
        rintro rfl
        cases stands
      simp only [Letter.chars, List.cons_append, List.nil_append, Letter.char]
      rw [textBody]
      · cases textBody rest <;> simp [stands]
      · intro a b c d others same
        exact absurd same noCode
  | code a b c d value digits whole =>
      obtain ⟨noHigh, -⟩ := whole
      simp only [Letter.chars, List.cons_append, List.nil_append, Letter.char, textBody, digits,
        bind, Option.bind, noHigh, Bool.false_and, Bool.false_eq_true, if_false]
      -- An escape that follows is not the other half of this one.
      split
      · split <;> rfl
      · rfl

theorem textBody_letters (letters : List Letter) (rest : List Char) :
    textBody (lettersChars letters ++ '"' :: rest) = some (letters.map Letter.char, rest) := by
  induction letters with
  | nil => rfl
  | cons letter letters ih =>
      rw [lettersChars, List.flatMap_cons, List.append_assoc, textBody_letter]
      rw [lettersChars] at ih
      rw [ih, Option.map_some, List.map_cons]

/-! ### Numbers -/

theorem someDigits_append (digits : Digits) {rest : List Char}
    (stops : rest.takeWhile isPlainDigit = [] ∧ rest.dropWhile isPlainDigit = rest) :
    someDigits (digits.chars ++ rest) = some (digits.chars, rest) := by
  rw [someDigits, List.takeWhile_append_of_pos digits.digits,
    List.dropWhile_append_of_pos digits.digits, stops.1, stops.2, List.append_nil]
  split
  · exact absurd ‹_› digits.nonempty
  · rfl

/-- Digits stop in front of anything that is no digit. -/
theorem digits_stop {c : Char} (other : isPlainDigit c = false) (rest : List Char) :
    (c :: rest).takeWhile isPlainDigit = [] ∧ (c :: rest).dropWhile isPlainDigit = c :: rest := by
  simp [other]

theorem digits_stop_of_ends {rest : List Char} (ends : Ends rest) :
    rest.takeWhile isPlainDigit = [] ∧ rest.dropWhile isPlainDigit = rest := by
  have others : ∀ c ∈ endAlphabet, isPlainDigit c = false := List.all_iff_forall_prop.1 (by decide)
  cases rest with
  | nil => exact ⟨rfl, rfl⟩
  | cons c rest => exact digits_stop (others c (ends c rfl)) rest

theorem wholeDigits_append (whole : Whole) {rest : List Char}
    (stops : rest.takeWhile isPlainDigit = [] ∧ rest.dropWhile isPlainDigit = rest) :
    wholeDigits (whole.chars ++ rest) = some (whole.chars, rest) := by
  obtain ⟨c, others, same, -⟩ := whole.eq_cons
  by_cases zero : c = '0'
  · subst zero
    obtain rfl := whole.alone others same
    rw [same]
    rfl
  · rw [← someDigits_append whole.toDigits stops, wholeDigits]
    intro others' same'
    rw [same, List.cons_append] at same'
    exact zero (List.cons.inj same').1

theorem fractionPart_of_ends {rest : List Char} (ends : Ends rest) :
    fractionPart rest = ([], rest) := by
  rw [fractionPart]
  rintro others rfl
  exact absurd (ends '.' rfl) (by decide)

theorem exponentPart_of_ends {rest : List Char} (ends : Ends rest) :
    exponentPart rest = ([], rest) := by
  cases rest with
  | nil => rfl
  | cons c others =>
      have noMark : ∀ c ∈ endAlphabet, (c == 'e' || c == 'E') = false :=
        List.all_iff_forall_prop.1 (by decide)
      simp [exponentPart, noMark c (ends c rfl)]

theorem exponentPart_append (exponent : Exponent) {rest : List Char} (ends : Ends rest) :
    exponentPart (exponent.chars ++ rest) = (exponent.chars, rest) := by
  have digits := someDigits_append exponent.digits (digits_stop_of_ends ends)
  cases capital : exponent.capital <;> cases negative : exponent.negative <;>
    simp [Exponent.chars, capital, negative, exponentPart, digits]

theorem magnitude_int (negative : Bool) (whole : Whole)
    (short : whole.chars.length ≤ Number.digitLimit) {rest : List Char} (ends : Ends rest) :
    magnitude negative (whole.chars ++ rest) =
      some ((Numeral.int negative whole short).document, rest) := by
  have noLonger : ¬ whole.chars.length > Number.digitLimit := Nat.not_lt.2 short
  simp [magnitude, wholeDigits_append whole (digits_stop_of_ends ends), fractionPart_of_ends ends,
    exponentPart_of_ends ends, noLonger, Numeral.document]

theorem magnitude_float (negative : Bool) (whole : Whole) (fraction : Digits)
    (exponent : Option Exponent) {rest : List Char} (ends : Ends rest) :
    magnitude negative ((Numeral.float negative whole fraction exponent).body ++ rest) =
      some ((Numeral.float negative whole fraction exponent).document, rest) := by
  have front : wholeDigits ((Numeral.float negative whole fraction exponent).body ++ rest) =
      some (whole.chars, '.' :: (fraction.chars ++ (exponentChars exponent ++ rest))) := by
    rw [Numeral.body, List.append_assoc, List.cons_append, List.append_assoc]
    exact wholeDigits_append whole (digits_stop rfl _)
  have middle : fractionPart ('.' :: (fraction.chars ++ (exponentChars exponent ++ rest))) =
      ('.' :: fraction.chars, exponentChars exponent ++ rest) := by
    have digits : someDigits (fraction.chars ++ (exponentChars exponent ++ rest)) =
        some (fraction.chars, exponentChars exponent ++ rest) := by
      apply someDigits_append
      cases exponent with
      | none => exact digits_stop_of_ends ends
      | some exponent => cases capital : exponent.capital <;>
          simp [exponentChars, Exponent.chars, capital, isPlainDigit]
    simp [fractionPart, digits]
  have behind : exponentPart (exponentChars exponent ++ rest) = (exponentChars exponent, rest) := by
    cases exponent with
    | none => exact exponentPart_of_ends ends
    | some exponent => exact exponentPart_append exponent ends
  have read : Number.readFloat? (sign negative ++ whole.chars ++ '.' :: fraction.chars ++
      exponentChars exponent) = some ((parts whole fraction exponent).toFloat negative) := by
    have signed := readSigned?_float false negative whole fraction exponent
    simpa [Numeral.body, Number.readFloat?] using signed
  rw [sign] at read
  simp only [magnitude, front, middle, behind, bind, Option.bind, List.isEmpty_cons, Bool.false_and,
    Bool.false_eq_true, if_false, read]
  rfl

theorem magnitude_body (numeral : Numeral) {rest : List Char} (ends : Ends rest) :
    magnitude numeral.negative (numeral.body ++ rest) = some (numeral.document, rest) := by
  cases numeral with
  | int negative whole short => exact magnitude_int negative whole short ends
  | float negative whole fraction exponent =>
      exact magnitude_float negative whole fraction exponent ends

/-! ### Words -/

/-- A number is no word that stands for a value. -/
theorem constant_number (numeral : Numeral) (rest : List Char) :
    constant (numeral.chars ++ rest) = none := by
  have noLetter : ∀ c ∈ "0123456789".toList, c ≠ 'n' ∧ c ≠ 't' ∧ c ≠ 'f' ∧ c ≠ 'N' ∧ c ≠ 'I' ∧
      c ≠ '-' := List.all_iff_forall_prop.1 (by decide)
  obtain ⟨c, others, same, digit⟩ := numeral.body_eq_cons
  obtain ⟨n, t, f, N, I, minus⟩ := noLetter c (mem_digits digit)
  cases negative : numeral.negative <;>
    simp [constant, afterWord?, Numeral.chars, negative, sign, same, n.symm, t.symm,
      f.symm, N.symm, I.symm, minus.symm]

/-! ### Documents -/

theorem value_number (numeral : Numeral) {rest : List Char} (ends : Ends rest) (bound : Nat) :
    value (bound + 1) (numeral.chars ++ rest) = some (numeral.document, rest) := by
  have word := constant_number numeral rest
  have number := magnitude_body numeral ends
  have solid : skipSpace (numeral.chars ++ rest) = numeral.chars ++ rest :=
    skipSpace_write (.number numeral) rest
  cases negative : numeral.negative with
  | true =>
      have shape : numeral.chars ++ rest = '-' :: (numeral.body ++ rest) := by
        simp [Numeral.chars, negative, sign]
      rw [negative] at number
      rw [shape] at word solid ⊢
      rw [value, solid]
      simp [word, number]
  | false =>
      obtain ⟨c, others, same, digit⟩ := numeral.body_eq_cons
      have shape : numeral.chars ++ rest = c :: (others ++ rest) := by
        simp [Numeral.chars, negative, sign, same]
      rw [negative, same, List.cons_append] at number
      rw [shape] at word solid ⊢
      have noMark : ∀ c ∈ "0123456789".toList, c ≠ '"' ∧ c ≠ '[' ∧ c ≠ '\x7b' ∧ c ≠ '-' :=
        List.all_iff_forall_prop.1 (by decide)
      obtain ⟨quote, bracket, brace, minus⟩ := noMark c (mem_digits digit)
      rw [value, solid]
      simp [word, number, quote, bracket, brace, minus]

theorem value_text (letters : List Letter) (rest : List Char) (bound : Nat) :
    value (bound + 1) (writeText letters rest) = some (.text (lettersText letters), rest) := by
  rw [writeText, value, skipSpace_cons rfl]
  simp [textBody_letters, lettersText]

theorem value_gap (gap : Gap) (text : List Char) (bound : Nat) :
    value bound (gap.chars ++ text) = value bound text := by
  cases bound with
  | zero => rw [value, value]
  | succ bound => rw [value, value, skipSpace_gap]

theorem items_gap (gap : Gap) (text : List Char) (bound : Nat) :
    items bound (gap.chars ++ text) = items bound text := by
  cases bound with
  | zero => rw [items, items]
  | succ bound => rw [items, items, value_gap]

theorem members_gap (gap : Gap) (text : List Char) (bound : Nat) :
    members bound (gap.chars ++ text) = members bound text := by
  cases bound with
  | zero => rw [members, members]
  | succ bound => rw [members, members, skipSpace_gap]

/-- A bound that is enough for what is written is not used up. -/
theorem exists_less {written rest : List Char} {bound : Nat}
    (longer : rest.length < written.length) (enough : written.length ≤ bound + rest.length) :
    ∃ less, bound = less + 1 :=
  Nat.exists_eq_succ_of_ne_zero (by omega)

mutual

/-- A spelling is read as its document, and what follows is left. -/
theorem value_write (spelling : Spelling) {rest : List Char} (ends : Ends rest) (bound : Nat)
    (enough : (spelling.write rest).length ≤ bound + rest.length) :
    value bound (spelling.write rest) = some (spelling.document, rest) := by
  obtain ⟨bound, rfl⟩ := exists_less (spelling.length_lt_write rest) enough
  have solid := skipSpace_write spelling rest
  cases spelling with
  | null =>
      rw [value, solid]
      rfl
  | truth truth =>
      rw [value, solid]
      cases truth <;> rfl
  | number numeral => exact value_number numeral ends bound
  | text letters => exact value_text letters rest bound
  | emptyArray inside =>
      rw [Spelling.write, value, skipSpace_cons rfl]
      simp [skipSpace_gap, skipSpace_cons, isSpace, Spelling.document]
  | array before list =>
      have inner := items_write list rest bound (by simp [Spelling.write] at enough ⊢; omega)
      have noClose : ∀ c ∈ startAlphabet, isSpace c = false ∧ c ≠ ']' :=
        List.all_iff_forall_prop.1 (by decide)
      obtain ⟨c, others, same, start⟩ := list.write_eq_cons (']' :: rest)
      obtain ⟨solid, notClosed⟩ := noClose c start
      rw [same] at inner
      rw [Spelling.write, value, skipSpace_cons rfl]
      simp [items_gap, skipSpace_gap, same, skipSpace_cons solid, notClosed, inner,
        Spelling.document]
  | emptyObject inside =>
      rw [Spelling.write, value, skipSpace_cons rfl]
      simp [skipSpace_gap, skipSpace_cons, isSpace, Spelling.document]
  | object before fields =>
      have inner := members_write fields rest bound (by
        simp [Spelling.write] at enough ⊢; omega)
      obtain ⟨others, same⟩ := fields.write_eq_cons ('\x7d' :: rest)
      rw [same] at inner
      rw [Spelling.write, value, skipSpace_cons rfl]
      simp [members_gap, skipSpace_gap, same, skipSpace_cons, isSpace, inner, Spelling.document]

theorem items_write (list : Items) (rest : List Char) (bound : Nat)
    (enough : (list.write (']' :: rest)).length ≤ bound + rest.length) :
    items bound (list.write (']' :: rest)) = some (list.documents, rest) := by
  obtain ⟨bound, rfl⟩ :=
    exists_less (Nat.lt_of_succ_lt (list.length_lt_write (']' :: rest))) enough
  cases list with
  | last item behind =>
      have ends : Ends (behind.chars ++ ']' :: rest) := behind.ends (ends_cons (by decide) rest)
      have first := value_write item ends bound (by simp [Items.write] at enough ⊢; omega)
      rw [Items.write, items]
      simp [first, skipSpace_gap, skipSpace_cons, isSpace, Items.documents]
  | more item behind next others =>
      have ends : Ends (behind.chars ++ ',' :: (next.chars ++ others.write (']' :: rest))) :=
        behind.ends (ends_cons (by decide) _)
      have shorter := others.length_lt_write (']' :: rest)
      have longer := item.length_lt_write
        (behind.chars ++ ',' :: (next.chars ++ others.write (']' :: rest)))
      have first := value_write item ends bound (by
        simp [Items.write] at enough shorter ⊢; omega)
      have later := items_write others rest bound (by
        simp [Items.write] at enough longer; omega)
      rw [Items.write, items]
      simp [first, skipSpace_gap, skipSpace_cons, isSpace, items_gap, later, Items.documents]

theorem members_write (fields : Fields) (rest : List Char) (bound : Nat)
    (enough : (fields.write ('\x7d' :: rest)).length ≤ bound + rest.length) :
    members bound (fields.write ('\x7d' :: rest)) = some (fields.pairs, rest) := by
  obtain ⟨bound, rfl⟩ :=
    exists_less (Nat.lt_of_succ_lt (fields.length_lt_write ('\x7d' :: rest))) enough
  cases fields with
  | last name item behind =>
      have ends : Ends (behind.chars ++ '\x7d' :: rest) := behind.ends (ends_cons (by decide) rest)
      have first := value_write item ends bound (by
        simp [Fields.write, Name.write, writeText] at enough ⊢; omega)
      rw [Fields.write, Name.write, writeText, members, skipSpace_cons rfl]
      simp [textBody_letters, skipSpace_spaces, skipSpace_cons, isSpace, value_gap, first,
        skipSpace_gap, Fields.pairs, lettersText]
  | more name item behind next others =>
      have ends : Ends (behind.chars ++ ',' :: (next.chars ++ others.write ('\x7d' :: rest))) :=
        behind.ends (ends_cons (by decide) _)
      have shorter := others.length_lt_write ('\x7d' :: rest)
      have longer := item.length_lt_write
        (behind.chars ++ ',' :: (next.chars ++ others.write ('\x7d' :: rest)))
      have first := value_write item ends bound (by
        simp [Fields.write, Name.write, writeText] at enough shorter ⊢; omega)
      have later := members_write others rest bound (by
        simp [Fields.write, Name.write, writeText] at enough longer; omega)
      rw [Fields.write, Name.write, writeText, members, skipSpace_cons rfl]
      simp [textBody_letters, skipSpace_spaces, skipSpace_cons, isSpace, value_gap, first,
        skipSpace_gap, members_gap, later, Fields.pairs, lettersText]

end

/-- **The JSON reader gives the document of a spelling**, whatever blanks stand around it. -/
theorem read?_write (before after : Gap) (spelling : Spelling) :
    read? (before.chars ++ spelling.write after.chars) = some spelling.document := by
  have nothing : skipSpace after.chars = [] := by
    rw [← List.append_nil after.chars, skipSpace_gap]
    rfl
  have ends : Ends after.chars := by
    rw [← List.append_nil after.chars]
    exact after.ends ends_nil
  have enough : (spelling.write after.chars).length ≤
      (before.chars ++ spelling.write after.chars).length + 1 + after.chars.length := by
    rw [List.length_append]
    omega
  simp only [read?, value_gap, value_write spelling ends _ enough, bind, Option.bind, nothing]
  rfl

end AccessRules.Json
