import AccessRules.Number.Exact
import AccessRules.Text.Blank
import AccessRules.Text.Digit

/-!
# Reading numbers

A numeral may be surrounded by blanks, may use the digits of any script, and may have single
underscores between its digits. `readInt` and `readFloat?` follow that grammar; `isPlainNumeral`
is the narrower one of attribute values that count as numbers for every client: no underscores,
and no names of special values but `Infinity`.
-/

namespace AccessRules.Number

open AccessRules.Text

/-- A character with a digit of any script replaced by the plain one. -/
def plainDigit (c : Char) : Char :=
  match digitValue? c with
  | some value => Char.ofNat (48 + value)
  | none => c

/-- The text of a numeral without the blanks around it and with plain digits. -/
def numeralText (text : List Char) : List Char :=
  (trimBoth isNumeralBlank text).map plainDigit

/-- Is the character a plain decimal digit? -/
def isPlainDigit (c : Char) : Bool := '0' ≤ c && c ≤ '9'

/-- The value of plain decimal digits. -/
def digitsValue (digits : List Char) : Nat :=
  digits.foldl (fun value c => value * 10 + (c.toNat - 48)) 0

/-- Split a sign off a numeral: is it negative, and what follows? -/
def splitSign : List Char → Bool × List Char
  | '-' :: rest => (true, rest)
  | '+' :: rest => (false, rest)
  | rest => (false, rest)

/-- Digits with single underscores between them, read from the left: the digits, and what
follows. `none` when an underscore stands first, last or beside another one. -/
def groupedDigits? (isDigit : Char → Bool) (text : List Char) : Option (List Char × List Char) :=
  let run := text.takeWhile fun c => isDigit c || c == '_'
  let digits := run.filter (· != '_')
  let separated : Bool := match run, run.getLast? with
    | [], _ => true
    | first :: _, last => first != '_' && last != some '_' &&
        (run.zip run.tail).all fun pair => !(pair.1 == '_' && pair.2 == '_')
  if separated then some (digits, text.drop run.length) else none

/-- Why a text is not read as an integer. -/
inductive IntError where
  /-- The text is no integer numeral. -/
  | malformed
  /-- The numeral has more digits than are read. -/
  | tooLong (digits : Nat)
  deriving DecidableEq, Repr

/-- The most digits of an integer that are read or written. -/
def digitLimit : Nat := 4300

/-- Read an integer numeral. The count of digits is checked before what follows them. -/
def readInt (text : List Char) : Except IntError Int :=
  let (negative, rest) := splitSign (numeralText text)
  match groupedDigits? isPlainDigit rest with
  | none => .error .malformed
  | some (digits, rest) =>
      if digits.length > digitLimit then .error (.tooLong digits.length)
      else if digits.isEmpty || !rest.isEmpty then .error .malformed
      else .ok (if negative then -(digitsValue digits : Int) else digitsValue digits)

/-- The parts of a decimal numeral: the digits in front of the point and behind it, and the
exponent. -/
structure DecimalParts where
  whole : List Char
  fraction : List Char
  exponent : Int

/-- Split a decimal numeral without sign into its parts; there is at least one digit, and an
exponent mark is followed by one. -/
def decimalParts? (text : List Char) : Option DecimalParts :=
  let whole := text.takeWhile isPlainDigit
  let (fraction, rest) : List Char × List Char := match text.dropWhile isPlainDigit with
    | '.' :: rest => (rest.takeWhile isPlainDigit, rest.dropWhile isPlainDigit)
    | rest => ([], rest)
  if whole.isEmpty && fraction.isEmpty then none
  else match rest with
    | [] => some ⟨whole, fraction, 0⟩
    | mark :: rest =>
        if mark == 'e' || mark == 'E' then
          let (negative, digits) := splitSign rest
          if digits.isEmpty || !digits.all isPlainDigit then none
          else
            let size : Int := digitsValue digits
            some ⟨whole, fraction, if negative then -size else size⟩
        else none

/-- The float nearest to a decimal numeral. -/
def DecimalParts.toFloat (negative : Bool) (parts : DecimalParts) : Float :=
  let digits := parts.whole ++ parts.fraction
  ofDecimal negative (digitsValue digits) (parts.exponent - parts.fraction.length)

/-- Drop the underscores of a numeral; `none` when one does not stand between two digits.
`before` is the character in front. -/
def dropUnderscores? (before : Option Char) : List Char → Option (List Char)
  | [] => some []
  | '_' :: rest =>
      if (before.any isPlainDigit) && (rest.head?.any isPlainDigit) then
        dropUnderscores? (some '_') rest
      else none
  | c :: rest => (dropUnderscores? (some c) rest).map (c :: ·)

/-- An ASCII letter in lower case; any other character as it is. -/
def plainLower (c : Char) : Char :=
  if 'A' ≤ c ∧ c ≤ 'Z' then Char.ofNat (c.toNat + 32) else c

/-- The float of a numeral behind its sign: a decimal one, or the name of an infinity or of
not-a-number in any case. -/
def magnitude? (negative : Bool) (text : List Char) : Option Float :=
  let name := String.ofList (text.map plainLower)
  if name == "inf" || name == "infinity" then some (ofMagnitudeBits negative infinityBits)
  else if name == "nan" then some (0.0 / 0.0)
  else (decimalParts? text).map (·.toFloat negative)

/-- Read a float numeral. A sign that has been cut off before counts as well as its own. -/
def readSigned? (negative : Bool) (text : List Char) : Option Float := do
  let (opposite, rest) := splitSign (← dropUnderscores? none (numeralText text))
  magnitude? (negative != opposite) rest

/-- Read a float numeral. -/
def readFloat? (text : List Char) : Option Float := readSigned? false text

/-- An exponent part that is absent or complete. -/
def isPlainExponent : List Char → Bool
  | [] => true
  | mark :: rest =>
      (mark == 'e' || mark == 'E') &&
        let digits := (splitSign rest).2
        !digits.isEmpty && digits.all isDigit

/-- A decimal numeral or `Infinity`, without a sign. -/
def isUnsignedPlainNumeral (text : List Char) : Bool :=
  if text == "Infinity".toList then true
  else match text.takeWhile isDigit, text.dropWhile isDigit with
    | [], '.' :: rest =>
        !(rest.takeWhile isDigit).isEmpty && isPlainExponent (rest.dropWhile isDigit)
    | [], _ => false
    | _ :: _, '.' :: rest => isPlainExponent (rest.dropWhile isDigit)
    | _ :: _, rest => isPlainExponent rest

/-- Is the text a number to every client: blanks around an optional sign and a decimal numeral or
`Infinity`? -/
def isPlainNumeral (text : List Char) : Bool :=
  isUnsignedPlainNumeral (splitSign (trim text)).2

end AccessRules.Number
