import AccessRules.Json.Read
import AccessRules.Text.Breaks
import AccessRules.Yaml.Token.Lexer
import Mathlib.Data.Bool.AllAny

/-!
# Texts that JSON and YAML have in common

Most JSON texts are YAML texts of the same document, but not all of them are. A `Spelling` is a
document as it is written in a text that both readers understand alike; it keeps every choice of
the writer: blanks, escapes, exponents. Compared to JSON there are these restrictions.

* Blanks between tokens are spaces and line ends, no tabs. The colon behind a name stands on the
  line of the name, and at most 1024 characters behind its beginning.
* A number with an exponent has a fraction too, and its exponent has a sign. An integer has at most
  as many digits as are read.
* The characters of texts may stand in YAML texts and are no line breaks. Escapes name whole
  characters, not halves.

* `Spelling.write` — the text of a spelling, in front of a rest;
* `Spelling.document` — the document that is written.
-/

namespace AccessRules

open AccessRules.Number (isPlainDigit)

namespace Spelling

/-- Blanks between tokens: spaces and line ends. -/
structure Gap where
  chars : List Char
  blank : ∀ c ∈ chars, c = ' ' ∨ c = '\n' ∨ c = '\r'

/-- Decimal digits, at least one. -/
structure Digits where
  chars : List Char
  nonempty : chars ≠ []
  digits : ∀ c ∈ chars, isPlainDigit c = true

/-- The digits in front of a point: a zero in front stands alone. -/
structure Whole extends Digits where
  alone : ∀ rest, chars = '0' :: rest → rest = []

/-- An exponent with its sign. -/
structure Exponent where
  capital : Bool
  negative : Bool
  digits : Digits

/-- A number. -/
inductive Numeral where
  | int (negative : Bool) (whole : Whole) (short : whole.chars.length ≤ Number.digitLimit)
  | float (negative : Bool) (whole : Whole) (fraction : Digits) (exponent : Option Exponent)

/-- A character inside quotes: itself, a short escape, or an escape with its code. -/
inductive Letter where
  | plain (c : Char) (allowed : Yaml.isAllowed c = true) (inLine : Yaml.isBreak c = false)
      (visible : 0x20 ≤ c.toNat) (special : c ≠ '"' ∧ c ≠ '\\')
  | short (letter c : Char) (stands : Json.shortEscape? letter = some c)
  | code (a b c d : Char) (value : Nat) (digits : Json.fourDigits? a b c d = some value)
      (whole : Json.isHighHalf value = false ∧ Json.isLowHalf value = false)

/-- A minus sign, or nothing. -/
def sign (negative : Bool) : List Char := if negative then ['-'] else []

/-- The characters of an exponent. -/
def Exponent.chars (exponent : Exponent) : List Char :=
  (if exponent.capital then 'E' else 'e') :: (if exponent.negative then '-' else '+') ::
    exponent.digits.chars

/-- The power of ten that an exponent is. -/
def Exponent.value (exponent : Exponent) : Int :=
  let size : Int := Number.digitsValue exponent.digits.chars
  if exponent.negative then -size else size

/-- The characters of an exponent, if there is one. -/
def exponentChars (exponent : Option Exponent) : List Char := (exponent.map (·.chars)).getD []

/-- The characters of a number without its sign. -/
def Numeral.body : Numeral → List Char
  | .int _ whole _ => whole.chars
  | .float _ whole fraction exponent =>
      whole.chars ++ '.' :: (fraction.chars ++ exponentChars exponent)

/-- Is there a minus sign? -/
def Numeral.negative : Numeral → Bool
  | .int negative _ _ => negative
  | .float negative _ _ _ => negative

/-- The characters of a number. -/
def Numeral.chars (numeral : Numeral) : List Char := sign numeral.negative ++ numeral.body

/-- The parts of a number with a fraction. -/
def parts (whole : Whole) (fraction : Digits) (exponent : Option Exponent) :
    Number.DecimalParts :=
  ⟨whole.chars, fraction.chars, (exponent.map (·.value)).getD 0⟩

/-- The document of a number. -/
def Numeral.document : Numeral → Document
  | .int negative whole _ =>
      let size : Int := Number.digitsValue whole.chars
      .int (if negative then -size else size)
  | .float negative whole fraction exponent =>
      .float ((parts whole fraction exponent).toFloat negative)

/-- The characters that a character is written as. -/
def Letter.chars : Letter → List Char
  | .plain c _ _ _ _ => [c]
  | .short letter _ _ => ['\\', letter]
  | .code a b c d _ _ _ => ['\\', 'u', a, b, c, d]

/-- The character that is written. -/
def Letter.char : Letter → Char
  | .plain c _ _ _ _ => c
  | .short _ c _ => c
  | .code _ _ _ _ value _ _ => Json.charOf value

/-- The characters that a text is written as, without its quotes. -/
def lettersChars (letters : List Letter) : List Char := letters.flatMap Letter.chars

/-- The text that is written. -/
def lettersText (letters : List Letter) : String := String.ofList (letters.map Letter.char)

/-- Write a text with its quotes in front of a rest. -/
def writeText (letters : List Letter) (rest : List Char) : List Char :=
  '"' :: (lettersChars letters ++ '"' :: rest)

/-- The name of a member, the spaces in front of its colon, and the blanks behind it. -/
structure Name where
  letters : List Letter
  spaces : Nat
  behind : Gap
  short : (lettersChars letters).length + 2 + spaces ≤ Yaml.keyLimit

/-- Write a name with its colon in front of a rest. -/
def Name.write (name : Name) (rest : List Char) : List Char :=
  writeText name.letters (List.replicate name.spaces ' ' ++ ':' :: (name.behind.chars ++ rest))

end Spelling

open Spelling

mutual

/-- A document as it is written. -/
inductive Spelling where
  | null
  | truth (value : Bool)
  | number (numeral : Numeral)
  | text (letters : List Letter)
  | emptyArray (inside : Gap)
  | array (before : Gap) (items : Spelling.Items)
  | emptyObject (inside : Gap)
  | object (before : Gap) (fields : Spelling.Fields)

/-- The items of a list, each with the blanks behind it and those behind its comma. -/
inductive Spelling.Items where
  | last (item : Spelling) (behind : Gap)
  | more (item : Spelling) (behind next : Gap) (rest : Spelling.Items)

/-- The members of an object, each with the blanks behind it and those behind its comma. -/
inductive Spelling.Fields where
  | last (name : Name) (item : Spelling) (behind : Gap)
  | more (name : Name) (item : Spelling) (behind next : Gap) (rest : Spelling.Fields)

end

namespace Spelling

mutual

/-- Write a document in front of a rest. -/
def write : Spelling → List Char → List Char
  | .null, rest => "null".toList ++ rest
  | .truth value, rest => (if value then "true" else "false").toList ++ rest
  | .number numeral, rest => numeral.chars ++ rest
  | .text letters, rest => writeText letters rest
  | .emptyArray inside, rest => '[' :: (inside.chars ++ ']' :: rest)
  | .array before items, rest => '[' :: (before.chars ++ items.write (']' :: rest))
  | .emptyObject inside, rest => '\x7b' :: (inside.chars ++ '\x7d' :: rest)
  | .object before fields, rest => '\x7b' :: (before.chars ++ fields.write ('\x7d' :: rest))

/-- Write items in front of a rest. -/
def Items.write : Items → List Char → List Char
  | .last item behind, rest => item.write (behind.chars ++ rest)
  | .more item behind next others, rest =>
      item.write (behind.chars ++ ',' :: (next.chars ++ others.write rest))

/-- Write members in front of a rest. -/
def Fields.write : Fields → List Char → List Char
  | .last name item behind, rest => name.write (item.write (behind.chars ++ rest))
  | .more name item behind next others, rest =>
      name.write (item.write (behind.chars ++ ',' :: (next.chars ++ others.write rest)))

end

mutual

/-- The document that is written. -/
def document : Spelling → Document
  | .null => .null
  | .truth value => .bool value
  | .number numeral => numeral.document
  | .text letters => .text (lettersText letters)
  | .emptyArray _ => .array []
  | .array _ items => .array items.documents
  | .emptyObject _ => .object []
  | .object _ fields => .object (Members.ofList fields.pairs)

/-- The documents of items. -/
def Items.documents : Items → List Document
  | .last item _ => [item.document]
  | .more item _ _ rest => item.document :: rest.documents

/-- The names and documents of members. -/
def Fields.pairs : Fields → List (Key × Document)
  | .last name item _ => [(.text (lettersText name.letters), item.document)]
  | .more name item _ _ rest =>
      (.text (lettersText name.letters), item.document) :: rest.pairs

end

/-! ### First characters -/

/-- The characters that a document may begin with. -/
def startAlphabet : List Char := "0123456789-\"[\x7bntf".toList

/-- A character in a range is one of those in the range. -/
theorem mem_range {c : Char} (low count : Nat) (above : low ≤ c.toNat)
    (below : c.toNat < low + count) : c ∈ (List.range' low count).map Char.ofNat :=
  List.mem_map.2 ⟨c.toNat, List.mem_range'_1.2 ⟨above, below⟩, Char.ofNat_toNat c⟩

theorem mem_digits {c : Char} (digit : isPlainDigit c = true) : c ∈ "0123456789".toList := by
  have bounds : 48 ≤ c.toNat ∧ c.toNat ≤ 57 := by
    simpa [isPlainDigit, Char.le_def, UInt32.le_iff_toNat_le] using digit
  exact mem_range 48 10 bounds.1 (Nat.lt_succ_of_le bounds.2)

theorem Digits.eq_cons (digits : Digits) :
    ∃ c rest, digits.chars = c :: rest ∧ isPlainDigit c = true ∧
      ∀ d ∈ rest, isPlainDigit d = true := by
  obtain ⟨c, rest, same⟩ := List.exists_cons_of_ne_nil digits.nonempty
  have all := digits.digits
  rw [same, List.forall_mem_cons] at all
  exact ⟨c, rest, same, all⟩

theorem Numeral.body_eq_cons (numeral : Numeral) :
    ∃ c rest, numeral.body = c :: rest ∧ isPlainDigit c = true := by
  cases numeral with
  | int negative whole short =>
      obtain ⟨c, rest, same, digit, -⟩ := whole.eq_cons
      exact ⟨c, rest, same, digit⟩
  | float negative whole fraction exponent =>
      obtain ⟨c, rest, same, digit, -⟩ := whole.eq_cons
      exact ⟨c, rest ++ '.' :: (fraction.chars ++ exponentChars exponent),
        by rw [body, same, List.cons_append], digit⟩

theorem Numeral.chars_eq_cons (numeral : Numeral) :
    ∃ c rest, numeral.chars = c :: rest ∧ (c = '-' ∨ isPlainDigit c = true) := by
  obtain ⟨c, rest, same, digit⟩ := numeral.body_eq_cons
  cases negative : numeral.negative with
  | true => exact ⟨'-', numeral.body, by rw [chars, negative]; rfl, Or.inl rfl⟩
  | false => exact ⟨c, rest, by rw [chars, negative, same]; rfl, Or.inr digit⟩

theorem start_of_numeral {c : Char} (first : c = '-' ∨ isPlainDigit c = true) :
    c ∈ startAlphabet := by
  obtain rfl | digit := first
  · decide
  · exact List.mem_append_left "-\"[\x7bntf".toList (mem_digits digit)

/-- A document begins with one of a few characters. -/
theorem write_eq_cons (spelling : Spelling) (rest : List Char) :
    ∃ c others, spelling.write rest = c :: others ∧ c ∈ startAlphabet := by
  cases spelling with
  | null => exact ⟨'n', _, rfl, by decide⟩
  | truth value => cases value with
    | true => exact ⟨'t', _, rfl, by decide⟩
    | false => exact ⟨'f', _, rfl, by decide⟩
  | number numeral =>
      obtain ⟨c, others, same, first⟩ := numeral.chars_eq_cons
      exact ⟨c, others ++ rest, by rw [write, same, List.cons_append],
        start_of_numeral first⟩
  | text letters => exact ⟨'"', _, rfl, by decide⟩
  | emptyArray inside => exact ⟨'[', _, rfl, by decide⟩
  | array before items => exact ⟨'[', _, rfl, by decide⟩
  | emptyObject inside => exact ⟨'\x7b', _, rfl, by decide⟩
  | object before fields => exact ⟨'\x7b', _, rfl, by decide⟩

theorem Items.write_eq_cons (items : Items) (rest : List Char) :
    ∃ c others, items.write rest = c :: others ∧ c ∈ startAlphabet := by
  cases items with
  | last item behind => exact item.write_eq_cons _
  | more item behind next others => exact item.write_eq_cons _

/-- Members begin with the quote of their first name. -/
theorem Fields.write_eq_cons (fields : Fields) (rest : List Char) :
    ∃ others, fields.write rest = '"' :: others := by
  cases fields with
  | last name item behind => exact ⟨_, rfl⟩
  | more name item behind next others => exact ⟨_, rfl⟩

/-! ### What follows -/

/-- The characters that may follow a document: blanks, a comma and closing brackets. -/
def endAlphabet : List Char := " \n\r,]\x7d".toList

/-- The rest is what may follow a document. -/
def Ends (rest : List Char) : Prop := ∀ c ∈ rest.head?, c ∈ endAlphabet

theorem ends_nil : Ends [] := by simp [Ends]

theorem ends_cons {c : Char} (fits : c ∈ endAlphabet) (rest : List Char) : Ends (c :: rest) := by
  simp [Ends, fits]

theorem Gap.ends (gap : Gap) {rest : List Char} (ends : Ends rest) : Ends (gap.chars ++ rest) := by
  cases same : gap.chars with
  | nil => exact ends
  | cons c others =>
      have blank := gap.blank c (same ▸ List.mem_cons_self)
      obtain rfl | rfl | rfl := blank
      · exact ends_cons (by decide) _
      · exact ends_cons (by decide) _
      · exact ends_cons (by decide) _

/-! ### Lengths -/

mutual

/-- What is written adds to its rest. -/
theorem length_lt_write (spelling : Spelling) (rest : List Char) :
    rest.length < (spelling.write rest).length := by
  cases spelling with
  | null => simp [write]; omega
  | truth value => cases value <;> simp [write] <;> omega
  | number numeral =>
      obtain ⟨c, others, same, -⟩ := numeral.chars_eq_cons
      rw [write, same, List.cons_append, List.length_cons, List.length_append]
      omega
  | text letters =>
      rw [write, writeText, List.length_cons, List.length_append, List.length_cons]
      omega
  | emptyArray inside => simp [write]; omega
  | array before items =>
      have inner := items.length_lt_write (']' :: rest)
      simp [write] at inner ⊢
      omega
  | emptyObject inside => simp [write]; omega
  | object before fields =>
      have inner := fields.length_lt_write ('\x7d' :: rest)
      simp [write] at inner ⊢
      omega

theorem Items.length_lt_write (items : Items) (rest : List Char) :
    rest.length < (items.write rest).length := by
  cases items with
  | last item behind =>
      have inner := item.length_lt_write (behind.chars ++ rest)
      simp [Items.write] at inner ⊢
      omega
  | more item behind next others =>
      have inner := others.length_lt_write rest
      have outer := item.length_lt_write
        (behind.chars ++ ',' :: (next.chars ++ others.write rest))
      simp [Items.write] at outer ⊢
      omega

theorem Fields.length_lt_write (fields : Fields) (rest : List Char) :
    rest.length < (fields.write rest).length := by
  cases fields with
  | last name item behind =>
      have inner := item.length_lt_write (behind.chars ++ rest)
      simp [Fields.write, Name.write, writeText] at inner ⊢
      omega
  | more name item behind next others =>
      have inner := others.length_lt_write rest
      have outer := item.length_lt_write
        (behind.chars ++ ',' :: (next.chars ++ others.write rest))
      simp [Fields.write, Name.write, writeText] at outer ⊢
      omega

end

end Spelling

end AccessRules
