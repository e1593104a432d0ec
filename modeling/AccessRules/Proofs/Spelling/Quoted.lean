import AccessRules.Proofs.Spelling.Basic

/-!
# YAML reads quoted texts

A text in double quotes whose characters a spelling allows is read as what it says, in both
languages by the same table of escapes. Only blanks need care: YAML reads a run of them at once,
since it would drop them at the end of a line.
-/

namespace AccessRules

open Spelling

/-! ### Hexadecimal digits -/

namespace Text

/-- The characters of hexadecimal digits. -/
def hexAlphabet : List Char := "0123456789abcdefABCDEF".toList

theorem hexValue?_eq_some {c : Char} {value : Nat} (digit : hexValue? c = some value) :
    c ∈ hexAlphabet ∧ value < 16 := by
  have codes (low high : Char) (within : low ≤ c ∧ c ≤ high) :
      low.toNat ≤ c.toNat ∧ c.toNat ≤ high.toNat := by
    simpa [Char.le_def, UInt32.le_iff_toNat_le] using within
  have among (low count : Nat) (inside : low ≤ c.toNat ∧ c.toNat < low + count)
      (hex : ∀ d ∈ (List.range' low count).map Char.ofNat, d ∈ hexAlphabet) : c ∈ hexAlphabet :=
    hex c (mem_range low count inside.1 inside.2)
  unfold hexValue? at digit
  split at digit
  · have code : 48 ≤ c.toNat ∧ c.toNat ≤ 57 := codes '0' '9' ‹_›
    cases digit
    exact ⟨among 48 10 (by omega) (List.all_iff_forall_prop.1 (by decide)), by omega⟩
  · split at digit
    · have code : 97 ≤ c.toNat ∧ c.toNat ≤ 102 := codes 'a' 'f' ‹_›
      cases digit
      exact ⟨among 97 6 (by omega) (List.all_iff_forall_prop.1 (by decide)), by omega⟩
    · split at digit
      · have code : 65 ≤ c.toNat ∧ c.toNat ≤ 70 := codes 'A' 'F' ‹_›
        cases digit
        exact ⟨among 65 6 (by omega) (List.all_iff_forall_prop.1 (by decide)), by omega⟩
      · cases digit

end Text

/-- Four hexadecimal digits make a number below `0x10000`. -/
theorem Json.fourDigits?_eq_some {a b c d : Char} {value : Nat}
    (digits : fourDigits? a b c d = some value) :
    (∀ x ∈ [a, b, c, d], x ∈ Text.hexAlphabet) ∧ value < 0x10000 := by
  simp only [fourDigits?, Text.hexNumber?, List.foldl_cons, List.foldl_nil, bind, pure,
    Option.bind_eq_some_iff, Option.some.injEq] at digits
  obtain ⟨abc, ⟨ab, ⟨first, ⟨start, rfl, w, hw, rfl⟩, x, hx, rfl⟩, y, hy, rfl⟩, z, hz, rfl⟩ :=
    digits
  obtain ⟨ha, small₁⟩ := Text.hexValue?_eq_some hw
  obtain ⟨hb, small₂⟩ := Text.hexValue?_eq_some hx
  obtain ⟨hc, small₃⟩ := Text.hexValue?_eq_some hy
  obtain ⟨hd, small₄⟩ := Text.hexValue?_eq_some hz
  refine ⟨?_, by omega⟩
  simp [ha, hb, hc, hd]

/-! ### Letters -/

namespace Spelling

/-- The letters of short escapes. -/
def escapeAlphabet : List Char := "\"\\/bfnrt".toList

theorem mem_escapeAlphabet {letter c : Char} (stands : Json.shortEscape? letter = some c) :
    letter ∈ escapeAlphabet := by
  unfold Json.shortEscape? at stands
  split at stands
  all_goals first | decide | cases stands

/-- The characters of a letter may stand in a YAML text, inside a line. -/
theorem Letter.mem_chars {letter : Letter} {c : Char} (among : c ∈ letter.chars) :
    Yaml.isAllowed c = true ∧ Yaml.isBreak c = false ∧ c ≠ '\r' := by
  have escapes : ∀ d ∈ '\\' :: 'u' :: escapeAlphabet ++ Text.hexAlphabet,
      Yaml.isAllowed d = true ∧ Yaml.isBreak d = false ∧ d ≠ '\r' :=
    List.all_iff_forall_prop.1 (by decide)
  cases letter with
  | plain own allowed inLine visible special =>
      obtain rfl : c = own := by simpa [chars] using among
      refine ⟨allowed, inLine, ?_⟩
      rintro rfl
      exact absurd visible (by decide)
  | short escape own stands =>
      obtain rfl | rfl : c = '\\' ∨ c = escape := by simpa [chars] using among
      · exact escapes _ (by decide)
      · have inTable : c ∈ '\\' :: 'u' :: escapeAlphabet :=
          List.mem_cons_of_mem _ (List.mem_cons_of_mem _ (mem_escapeAlphabet stands))
        exact escapes _ (List.mem_append_left _ inTable)
  | code a b x d value digits whole =>
      obtain ⟨hex, -⟩ := Json.fourDigits?_eq_some digits
      rw [chars, List.mem_cons, List.mem_cons] at among
      obtain rfl | rfl | digit := among
      · exact escapes _ (by decide)
      · exact escapes _ (by decide)
      · exact escapes _ (List.mem_append_right _ (hex c digit))

theorem mem_lettersChars {letters : List Letter} {c : Char} (among : c ∈ lettersChars letters) :
    Yaml.isAllowed c = true ∧ Yaml.isBreak c = false ∧ c ≠ '\r' := by
  obtain ⟨letter, -, inLetter⟩ := List.mem_flatMap.1 among
  exact letter.mem_chars inLetter

theorem length_le_lettersChars (letters : List Letter) :
    letters.length ≤ (lettersChars letters).length := by
  induction letters with
  | nil => exact Nat.le_refl 0
  | cons letter letters ih =>
      have one : 1 ≤ letter.chars.length := by cases letter <;> simp [Letter.chars]
      rw [lettersChars, List.flatMap_cons, List.length_append, List.length_cons]
      rw [lettersChars] at ih
      omega

end Spelling

/-! ### Between quotes -/

namespace Yaml

/-- Escapes are the same in both languages. -/
theorem escape_short {cursor : Cursor} {letter c : Char} {rest : List Char}
    (here : cursor.rest = letter :: rest) (stands : Json.shortEscape? letter = some c) :
    escape cursor = .ok ([c], cursor.step) := by
  have same : escapeOf? letter = some c := by
    have agree : ∀ x ∈ escapeAlphabet, escapeOf? x = Json.shortEscape? x :=
      List.all_iff_forall_prop.1 (by decide)
    rw [agree letter (mem_escapeAlphabet stands), stands]
  simp [escape, Cursor.peek, here, same]

theorem escape_code {cursor : Cursor} {a b c d : Char} {value : Nat} {rest : List Char}
    (here : cursor.rest = 'u' :: a :: b :: c :: d :: rest)
    (digits : Json.fourDigits? a b c d = some value)
    (whole : Json.isHighHalf value = false ∧ Json.isLowHalf value = false) :
    escape cursor = .ok ([Json.charOf value], cursor.forward 5) := by
  obtain ⟨-, small⟩ := Json.fourDigits?_eq_some digits
  have width : escapeWidth? 'u' = some 4 := rfl
  have noShort : escapeOf? 'u' = none := rfl
  have named : codeEscape? cursor = some (value, cursor.forward 5) := by
    rw [Json.fourDigits?] at digits
    simp [codeEscape?, Cursor.peek, here, width, digits]
  have noFault : ¬ 0x80000000 ≤ value ∧ ¬ 0x110000 ≤ value := by omega
  have noHalf : Json.isHalf value = false := by simp [Json.isHalf, whole]
  simp [escape, Cursor.peek, here, noShort, named, escapedChar, noFault, noHalf, Json.charOf]

/-- A run of blanks inside a line is kept. -/
theorem quotedSpaces_eq {cursor : Cursor} {blanks others : List Char} {c : Char}
    (here : cursor.rest = blanks ++ c :: others) (all : ∀ b ∈ blanks, isSpace b = true)
    (solid : isSpace c = false) (inLine : isBreak c = false) :
    quotedSpaces cursor = .ok (blanks, cursor.forward blanks.length) := by
  have run : cursor.rest.takeWhile isSpace = blanks := by
    rw [here, List.takeWhile_append_of_pos all, List.takeWhile_cons_of_neg (by simp [solid]),
      List.append_nil]
  have past : (cursor.forward blanks.length).peek = some c := by
    rw [Cursor.peek, Cursor.forward_rest, here, List.drop_left, List.head?_cons]
  simp [quotedSpaces, run, past, inLine, pure, Except.pure]

/-- Blanks between quotes are read as a whole. -/
theorem quotedBody_blanks {cursor : Cursor} {blanks others : List Char} {b c : Char}
    (here : cursor.rest = b :: (blanks ++ c :: others)) (all : ∀ d ∈ b :: blanks, isSpace d = true)
    (solid : isSpace c = false) (inLine : isBreak c = false) (bound : Nat) :
    quotedBody true (bound + 1) cursor =
      (quotedBody true bound (cursor.step.forward blanks.length)).map
        fun result => (b :: blanks ++ result.1, result.2) := by
  have run : quotedSpaces cursor = .ok (b :: blanks, cursor.step.forward blanks.length) :=
    quotedSpaces_eq here all solid inLine
  have blank : isSpace b = true := all b List.mem_cons_self
  have peeked : cursor.peek = some b := by rw [Cursor.peek, here, List.head?_cons]
  simp only [quotedBody, peeked, blank, Bool.true_or, if_true, run, bind, Except.bind, pure,
    Except.pure]
  cases quotedBody true bound (cursor.step.forward blanks.length) <;> rfl

/-- A blank that is not at the end of a line is kept. It takes a turn of its own only when no other
blank follows. -/
theorem quotedBody_space {cursor : Cursor} {blanks others : List Char} {c : Char}
    (here : cursor.rest = ' ' :: (blanks ++ c :: others)) (all : ∀ b ∈ blanks, isSpace b = true)
    (solid : isSpace c = false) (inLine : isBreak c = false) (bound : Nat) :
    quotedBody true (bound + 1) cursor =
      (quotedBody true (if blanks.isEmpty then bound else bound + 1) cursor.step).map
        fun result => (' ' :: result.1, result.2) := by
  rw [quotedBody_blanks here (List.forall_mem_cons.2 ⟨rfl, all⟩) solid inLine]
  cases blanks with
  | nil => rfl
  | cons b blanks =>
      have here' : cursor.step.rest = b :: (blanks ++ c :: others) := by
        rw [Cursor.step_rest, here]
        rfl
      rw [if_neg (by simp), quotedBody_blanks here' all solid inLine, List.length_cons,
        Cursor.forward]
      cases quotedBody true bound (cursor.step.step.forward blanks.length) <;> rfl

theorem quotedBody_plain {cursor : Cursor} {c : Char} {rest : List Char}
    (here : cursor.rest = c :: rest) (solid : isSpace c = false) (inLine : isBreak c = false)
    (special : c ≠ '"' ∧ c ≠ '\\') (bound : Nat) :
    quotedBody true (bound + 1) cursor =
      (quotedBody true bound cursor.step).map fun result => (c :: result.1, result.2) := by
  have peeked : cursor.peek = some c := by rw [Cursor.peek, here, List.head?_cons]
  simp only [quotedBody, peeked, solid, inLine, special.1, special.2, bind, Except.bind, pure,
    Except.pure, Bool.or_self, Bool.not_true, Bool.false_and, Bool.true_and, Bool.false_eq_true,
    if_false, if_true, beq_iff_eq]
  cases quotedBody true bound cursor.step <;> rfl

theorem quotedBody_escape {cursor behind : Cursor} {c : Char} {rest : List Char}
    (here : cursor.rest = '\\' :: rest) (stands : escape cursor.step = .ok ([c], behind))
    (bound : Nat) :
    quotedBody true (bound + 1) cursor =
      (quotedBody true bound behind).map fun result => (c :: result.1, result.2) := by
  have peeked : cursor.peek = some '\\' := by rw [Cursor.peek, here, List.head?_cons]
  have solid : (isSpace '\\' || isBreak '\\') = false := by decide
  simp only [quotedBody, peeked, solid, stands, bind, Except.bind, pure, Except.pure,
    Bool.not_true, Bool.false_and, Bool.true_and, Bool.false_eq_true, if_false, if_true,
    beq_self_eq_true]
  cases quotedBody true bound behind <;> rfl

/-- Behind the blanks of a text stands some other character, and no break. -/
theorem exists_blanks (letters : List Letter) (rest : List Char) :
    ∃ blanks c others, lettersChars letters ++ '"' :: rest = blanks ++ c :: others ∧
      (∀ b ∈ blanks, isSpace b = true) ∧ isSpace c = false ∧ isBreak c = false := by
  have inLine : ∀ c ∈ lettersChars letters, isBreak c = false := fun c among =>
    (mem_lettersChars among).2.1
  generalize lettersChars letters = chars at inLine
  induction chars with
  | nil => exact ⟨[], '"', rest, rfl, by simp, rfl, rfl⟩
  | cons b chars ih =>
      rw [List.forall_mem_cons] at inLine
      cases blank : isSpace b with
      | false => exact ⟨[], b, chars ++ '"' :: rest, rfl, by simp, blank, inLine.1⟩
      | true =>
          obtain ⟨blanks, c, others, same, all, solid, goesOn⟩ := ih inLine.2
          exact ⟨b :: blanks, c, others, by rw [List.cons_append, same, List.cons_append],
            List.forall_mem_cons.2 ⟨blank, all⟩, solid, goesOn⟩

/-- The letters of a text are read up to the closing quote. -/
theorem quotedBody_letters (letters : List Letter) {cursor : Cursor} {rest : List Char}
    (here : cursor.rest = lettersChars letters ++ '"' :: rest) {bound : Nat}
    (enough : letters.length < bound) :
    quotedBody true bound cursor =
      .ok (letters.map Letter.char, cursor.forward ((lettersChars letters).length + 1)) := by
  induction letters generalizing cursor bound with
  | nil =>
      obtain ⟨bound, rfl⟩ := Nat.exists_eq_succ_of_ne_zero (Nat.ne_of_gt enough)
      have quote : isSpace '"' = false ∧ isBreak '"' = false := by decide
      have here : cursor.rest = '"' :: rest := here
      simp [quotedBody, Cursor.peek, here, quote, lettersChars, Cursor.forward, pure, Except.pure]
  | cons letter letters ih =>
      obtain ⟨bound, rfl⟩ := Nat.exists_eq_succ_of_ne_zero (Nat.ne_of_gt (Nat.zero_lt_of_lt enough))
      rw [List.length_cons] at enough
      have here : cursor.rest = letter.chars ++ (lettersChars letters ++ '"' :: rest) := by
        rw [here, lettersChars, List.flatMap_cons, List.append_assoc, lettersChars]
      have length : (lettersChars (letter :: letters)).length =
          letter.chars.length + (lettersChars letters).length := by simp [lettersChars]
      rw [length, Nat.add_assoc, Cursor.forward_add, List.map_cons]
      have here' : (cursor.forward letter.chars.length).rest =
          lettersChars letters ++ '"' :: rest := by
        rw [Cursor.forward_rest, here, List.drop_left]
      have later {bound : Nat} (enough : letters.length < bound) :
          quotedBody true bound (cursor.forward letter.chars.length) = _ := ih here' enough
      cases letter with
      | plain c allowed inLine visible special =>
          cases blank : isSpace c with
          | true =>
              obtain rfl : c = ' ' := by
                obtain same | rfl : c = ' ' ∨ c = '\t' := by simpa [isSpace] using blank
                · exact same
                · exact absurd visible (by decide)
              obtain ⟨blanks, d, others, same, all, solid, goesOn⟩ := exists_blanks letters rest
              rw [same] at here
              rw [quotedBody_space here all solid goesOn]
              cases blanks with
              | nil =>
                  have fewer : letters.length < bound := by omega
                  exact congrArg (Except.map _) (later fewer)
              | cons b blanks =>
                  have fewer : letters.length < bound + 1 := by omega
                  exact congrArg (Except.map _) (later fewer)
          | false =>
              rw [quotedBody_plain here blank inLine special]
              exact congrArg (Except.map _) (later (by omega))
      | short escape c stands =>
          have behind : cursor.step.rest = escape :: (lettersChars letters ++ '"' :: rest) := by
            rw [Cursor.step_rest, here]
            rfl
          rw [quotedBody_escape here (escape_short behind stands)]
          exact congrArg (Except.map _) (later (by omega))
      | code a b c d value digits whole =>
          have behind : cursor.step.rest =
              'u' :: a :: b :: c :: d :: (lettersChars letters ++ '"' :: rest) := by
            rw [Cursor.step_rest, here]
            rfl
          rw [quotedBody_escape here (escape_code behind digits whole)]
          exact congrArg (Except.map _) (later (by omega))

/-- **A text in double quotes is read as what a spelling says.** -/
theorem quotedScalar_writeText (letters : List Letter) {cursor : Cursor} {rest : List Char}
    (here : cursor.rest = writeText letters rest) :
    quotedScalar true cursor =
      .ok (letters.map Letter.char, cursor.forward ((lettersChars letters).length + 2)) := by
  have behind : cursor.step.rest = lettersChars letters ++ '"' :: rest := by
    rw [Cursor.step_rest, here]
    rfl
  have enough : letters.length < cursor.rest.length + 1 := by
    have long := length_le_lettersChars letters
    simp [here, writeText]
    omega
  rw [quotedScalar, quotedBody_letters letters behind enough]
  rfl

end Yaml

end AccessRules
