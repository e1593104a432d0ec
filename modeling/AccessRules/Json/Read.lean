import AccessRules.Document.Basic
import AccessRules.Text.Digit

/-!
# Reading JSON

A JSON text is read as a document. Integers without fraction and exponent stay integers of any
size up to the limit of digits; every other number is a float. Members keep their order, and the
last value of a repeated name wins. Beyond the standard, `NaN`, `Infinity` and `-Infinity` are
numbers.

**Design.** Every reader takes characters and gives a value with the characters behind it, or
`none`. Values nest, so `value` and the readers of lists and members take a number that bounds the
nesting and the lengths; the length of the text is enough for both.
-/

namespace AccessRules.Json

open AccessRules.Text

/-- Is the character blank between the tokens of JSON? -/
def isSpace (c : Char) : Bool := c == ' ' || c == '\t' || c == '\n' || c == '\r'

/-- Drop the blanks in front. -/
def skipSpace (text : List Char) : List Char := text.dropWhile isSpace

/-- The value of four hexadecimal digits. -/
def fourDigits? (a b c d : Char) : Option Nat := hexNumber? [a, b, c, d]

/-- Is it the first half of a character written as two? -/
def isHighHalf (code : Nat) : Bool := 0xD800 ≤ code && code ≤ 0xDBFF

/-- Is it the second half of a character written as two? -/
def isLowHalf (code : Nat) : Bool := 0xDC00 ≤ code && code ≤ 0xDFFF

/-- Is it half a character? -/
def isHalf (code : Nat) : Bool := isHighHalf code || isLowHalf code

/-- The character that two halves make. -/
def joinHalves (high low : Nat) : Char :=
  Char.ofNat (0x10000 + (high - 0xD800) * 0x400 + (low - 0xDC00))

/-- The character of a code. Texts hold whole characters only, so that a half that stands alone,
which the language allows and other readers keep, becomes the replacement character. -/
def charOf (code : Nat) : Char := if isHalf code then '\uFFFD' else Char.ofNat code

/-- The character that a letter behind a backslash stands for. -/
def shortEscape? : Char → Option Char
  | '"' => some '"'
  | '\\' => some '\\'
  | '/' => some '/'
  | 'b' => some '\x08'
  | 'f' => some '\x0c'
  | 'n' => some '\n'
  | 'r' => some '\r'
  | 't' => some '\t'
  | _ => none

/-- The characters of a text up to the closing quote, and what follows it. Control characters do
not stand in a text. -/
def textBody : List Char → Option (List Char × List Char)
  | [] => none
  | '"' :: rest => some ([], rest)
  | '\\' :: 'u' :: a :: b :: c :: d :: rest => do
      let code ← fourDigits? a b c d
      let plain := (textBody rest).map fun (chars, rest) => (charOf code :: chars, rest)
      match rest with
      | '\\' :: 'u' :: e :: f :: g :: h :: rest => match fourDigits? e f g h with
        | some low =>
            if isHighHalf code && isLowHalf low then
              (textBody rest).map fun (chars, rest) => (joinHalves code low :: chars, rest)
            else plain
        | none => plain
      | _ => plain
  | '\\' :: letter :: rest => do
      let c ← shortEscape? letter
      let (chars, rest) ← textBody rest
      return (c :: chars, rest)
  | c :: rest => do
      if c.toNat < 0x20 || c == '\\' then none
      else
        let (chars, rest) ← textBody rest
        return (c :: chars, rest)

/-- A run of digits: at least one. -/
def someDigits (text : List Char) : Option (List Char × List Char) :=
  match text.takeWhile Number.isPlainDigit with
  | [] => none
  | digits => some (digits, text.dropWhile Number.isPlainDigit)

/-- The digits in front of the point: a zero alone, or digits that do not start with a zero. -/
def wholeDigits : List Char → Option (List Char × List Char)
  | '0' :: rest => some (['0'], rest)
  | text => someDigits text

/-- The fraction of a number with its point, if there is one. -/
def fractionPart (text : List Char) : List Char × List Char :=
  match text with
  | '.' :: rest => match someDigits rest with
    | some (digits, rest) => ('.' :: digits, rest)
    | none => ([], text)
  | _ => ([], text)

/-- The exponent of a number with its mark, if there is one. -/
def exponentPart (text : List Char) : List Char × List Char :=
  match text with
  | mark :: rest =>
      if mark == 'e' || mark == 'E' then
        let (sign, rest) : List Char × List Char := match rest with
          | '+' :: rest => (['+'], rest)
          | '-' :: rest => (['-'], rest)
          | rest => ([], rest)
        match someDigits rest with
        | some (digits, rest) => (mark :: sign ++ digits, rest)
        | none => ([], text)
      else ([], text)
  | [] => ([], text)

/-- A number without sign, and what follows it. -/
def magnitude (negative : Bool) (text : List Char) : Option (Document × List Char) := do
  let (whole, rest) ← wholeDigits text
  let (fraction, rest) := fractionPart rest
  let (exponent, rest) := exponentPart rest
  if fraction.isEmpty && exponent.isEmpty then
    if whole.length > Number.digitLimit then none
    else
      let size : Int := Number.digitsValue whole
      return (.int (if negative then -size else size), rest)
  else
    let sign := if negative then ['-'] else []
    let value ← Number.readFloat? (sign ++ whole ++ fraction ++ exponent)
    return (.float value, rest)

/-- Take a word off the front of a text. -/
def afterWord? (word : String) (text : List Char) : Option (List Char) :=
  if word.toList.isPrefixOf text then some (text.drop word.length) else none

/-- A word that stands for a value, and what follows it. -/
def constant (text : List Char) : Option (Document × List Char) :=
  ([("null", .null), ("true", .bool true), ("false", .bool false),
    ("NaN", .float (0.0 / 0.0)),
    ("Infinity", .float (Number.ofMagnitudeBits false Number.infinityBits)),
    ("-Infinity", .float (Number.ofMagnitudeBits true Number.infinityBits))] :
      List (String × Document)).findSome?
    fun entry => (afterWord? entry.1 text).map fun rest => (entry.2, rest)

mutual

/-- A value at the front of a text, and what follows it. -/
def value : Nat → List Char → Option (Document × List Char)
  | 0, _ => none
  | bound + 1, text => match skipSpace text with
    | '"' :: rest => do
        let (chars, rest) ← textBody rest
        return (.text (String.ofList chars), rest)
    | '[' :: rest => match skipSpace rest with
      | ']' :: rest => some (.array [], rest)
      | _ => do
          let (list, rest) ← items bound rest
          return (.array list, rest)
    | '\x7b' :: rest => match skipSpace rest with
      | '\x7d' :: rest => some (.object [], rest)
      | _ => do
          let (pairs, rest) ← members bound rest
          return (.object (Members.ofList pairs), rest)
    | text => (constant text).orElse fun _ => match text with
      | '-' :: rest => magnitude true rest
      | _ => magnitude false text

/-- The items of a list up to its closing bracket: at least one. -/
def items : Nat → List Char → Option (List Document × List Char)
  | 0, _ => none
  | bound + 1, text => do
      let (item, rest) ← value bound text
      match skipSpace rest with
      | ',' :: rest => do
          let (others, rest) ← items bound rest
          return (item :: others, rest)
      | ']' :: rest => return ([item], rest)
      | _ => none

/-- The members of an object up to its closing brace: at least one. -/
def members : Nat → List Char → Option (List (Key × Document) × List Char)
  | 0, _ => none
  | bound + 1, text => match skipSpace text with
    | '"' :: rest => do
        let (name, rest) ← textBody rest
        match skipSpace rest with
        | ':' :: rest => do
            let (item, rest) ← value bound rest
            let pair : Key × Document := (.text (String.ofList name), item)
            match skipSpace rest with
            | ',' :: rest => do
                let (others, rest) ← members bound rest
                return (pair :: others, rest)
            | '\x7d' :: rest => return ([pair], rest)
            | _ => none
        | _ => none
    | _ => none

end

/-- The document that a JSON text stands for. -/
def read? (text : List Char) : Option Document := do
  let (document, rest) ← value (text.length + 1) text
  if (skipSpace rest).isEmpty then return document else none

end AccessRules.Json
