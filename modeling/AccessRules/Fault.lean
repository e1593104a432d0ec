import AccessRules.Text.Quoted
import AccessRules.Number.Written
import AccessRules.Number.Read

/-!
# Faults

What can go wrong when a value is put to a use that it does not admit. A fault is its cause; the
words for it, which reports and answers show, are written by `Fault.kind` and `Fault.message`
alone. A fault that carries nothing has words of this library's own: there are as many words for a
wrong kind as there are uses of a value, and nothing reads them but people.
-/

namespace AccessRules

open AccessRules.Text

/-- Which division met a zero divisor. -/
inductive Division where
  /-- An integer divided by an integer. -/
  | quotient
  /-- A quotient with a float on either side. -/
  | floatQuotient
  /-- The remainder of two integers. -/
  | remainder
  /-- A remainder with a float on either side. -/
  | floatRemainder
  deriving DecidableEq, Repr

/-- The words for a zero divisor. -/
def Division.message : Division → String
  | .quotient => "division by zero"
  | .floatQuotient => "float division by zero"
  | .remainder => "integer modulo by zero"
  | .floatRemainder => "float modulo"

/-- A calendar field that is out of its range. -/
inductive CalendarField where
  | year (value : Nat)
  | month
  | day
  | hour
  | minute
  | second
  /-- A distance from universal time of a day or more: whole days and the seconds left over. -/
  | offset (days : Int) (seconds : Nat)
  deriving DecidableEq, Repr

/-- The words for a calendar field that is out of range. -/
def CalendarField.message : CalendarField → String
  | .year value => "year " ++ Number.writtenInt value ++ " is out of range"
  | .month => "month must be in 1..12"
  | .day => "day is out of range for month"
  | .hour => "hour must be in 0..23"
  | .minute => "minute must be in 0..59"
  | .second => "second must be in 0..59"
  | .offset days seconds =>
      "offset must be a timedelta strictly between -timedelta(hours=24) and " ++
        "timedelta(hours=24), not datetime.timedelta(days=" ++ Number.writtenInt days ++
        (if seconds = 0 then "" else ", seconds=" ++ Number.writtenInt seconds) ++ ")."

/-- A text or number whose kind is right and whose value is not. -/
inductive ValueFault where
  /-- A text that is no integer numeral in the base. -/
  | notInteger (base : Nat) (text : String)
  /-- A text that is no float numeral. -/
  | notFloat (text : String)
  /-- A guarded text where an integer is wanted. -/
  | guardedInteger (text : String)
  /-- A guarded text where a float is wanted. -/
  | guardedFloat (text : String)
  /-- An integer numeral with more digits than are read. -/
  | tooManyDigits (digits : Nat)
  /-- An integer with more digits than are written. -/
  | tooLongInteger
  /-- A split at the empty text. -/
  | emptySeparator
  /-- A condition whose operator is unknown. -/
  | unknownOperator (name : String)
  /-- An element that should be a key and a value but has another length. -/
  | pairLength (index length : Nat)
  /-- A calendar date or time that does not exist. -/
  | calendar (field : CalendarField)
  /-- An escape for a code point beyond the last one. -/
  | codePoint
  /-- A name of a log level that is none. -/
  | unknownLevel (name : String)
  /-- A conversion that a message template does not know, and where it stands. -/
  | unknownConversion (letter : Char) (index : Nat)
  /-- A message template that ends inside a conversion. -/
  | incompleteConversion
  /-- A message template that ends inside the name of an argument. -/
  | incompleteName
  /-- A width in a message template that is too big. -/
  | widthTooBig
  /-- A precision in a message template that is too big. -/
  | precisionTooBig
  /-- Not-a-number where an integer is wanted. -/
  | notANumber
  /-- Words given by whoever raised the fault. -/
  | given (message : String)
  deriving DecidableEq, Repr

/-- The most characters of a quoted text that a report on an integer numeral shows. -/
def shownNumeralLength : Nat := 200

/-- The words for an unknown operator. Behind a dotted name stands the part in front of the first
dot, unless that is empty. -/
def unknownOperatorMessage (name : String) : String :=
  let head := name.toList.takeWhile (· != '.')
  "Unrecognized operation " ++ quoted name ++
    (if head.isEmpty || head.length = name.toList.length then ""
      else " (failed at " ++ quoted (String.ofList head) ++ ")")

/-- The words for a value that is not right. -/
def ValueFault.message : ValueFault → String
  | .notInteger base text =>
      "invalid literal for int() with base " ++ Number.writtenInt base ++ ": " ++
        String.ofList ((quotedChars text.toList).take shownNumeralLength)
  | .notFloat text => "could not convert string to float: " ++ quoted text
  | .guardedInteger text => "invalid literal for int(): " ++ quoted text
  | .guardedFloat text => "could not convert string to float: " ++ quoted text
  | .tooManyDigits digits =>
      "Exceeds the limit (4300 digits) for integer string conversion: value has " ++
        Number.writtenInt digits ++
        " digits; use sys.set_int_max_str_digits() to increase the limit"
  | .tooLongInteger =>
      "Exceeds the limit (4300 digits) for integer string conversion; " ++
        "use sys.set_int_max_str_digits() to increase the limit"
  | .emptySeparator => "empty separator"
  | .unknownOperator name => unknownOperatorMessage name
  | .pairLength index length =>
      "dictionary update sequence element #" ++ Number.writtenInt index ++ " has length " ++
        Number.writtenInt length ++ "; 2 is required"
  | .calendar field => field.message
  | .codePoint => "chr() arg not in range(0x110000)"
  | .unknownLevel name => "Unknown level: " ++ quoted name
  | .unknownConversion letter index =>
      "unsupported format character '" ++
        String.singleton (if 31 < letter.toNat && letter.toNat < 127 then letter else '?') ++
        "' (0x" ++ String.ofList (Nat.toDigits 16 letter.toNat) ++ ") at index " ++
        Number.writtenInt index
  | .incompleteConversion => "incomplete format"
  | .incompleteName => "incomplete format key"
  | .widthTooBig => "width too big"
  | .precisionTooBig => "precision too big"
  | .notANumber => "cannot convert float NaN to integer"
  | .given message => message

/-- A value was put to a use that it does not admit. -/
inductive Fault where
  /-- The kind of some value is wrong, or the number of values. -/
  | wrongKind
  /-- A value of the kind was to be gone through, and there is nothing in it. -/
  | notIterable (kind : String)
  /-- The value is wrong. -/
  | wrongValue (cause : ValueFault)
  /-- A division by zero. -/
  | dividedByZero (division : Division)
  /-- A number is too large for a float or for an index. -/
  | tooLarge
  /-- An index points behind either end. -/
  | outOfRange
  /-- A name that is not among the known ones. -/
  | unknownName
  /-- A key that is not there. -/
  | missingKey
  /-- Bytes that are no text in the encoding they should have. -/
  | undecodable
  /-- A connection that failed, in the words of whoever opened it. -/
  | connection (message : String)
  /-- A failure without a closer kind, in the words of whoever raised it. -/
  | runtime (message : String)
  /-- A metric of that name is registered already. -/
  | duplicateSeries
  deriving DecidableEq, Repr

/-- The word for the kind of a fault. -/
def Fault.kind : Fault → String
  | .wrongKind | .notIterable _ => "TypeError"
  | .wrongValue _ => "ValueError"
  | .dividedByZero _ => "ZeroDivisionError"
  | .tooLarge => "OverflowError"
  | .outOfRange => "IndexError"
  | .unknownName => "AttributeError"
  | .missingKey => "KeyError"
  | .undecodable => "UnicodeDecodeError"
  | .connection _ => "ConnectionError"
  | .runtime _ => "RuntimeError"
  | .duplicateSeries => "DuplicateTimeseries"

/-- The words for a fault. -/
def Fault.message : Fault → String
  | .wrongKind => "operands of the wrong kind"
  | .notIterable kind => "'" ++ kind ++ "' object is not iterable"
  | .wrongValue cause => cause.message
  | .dividedByZero division => division.message
  | .tooLarge => "number too large"
  | .outOfRange => "index out of range"
  | .unknownName => "unknown name"
  | .missingKey => "missing key"
  | .undecodable => "undecodable bytes"
  | .connection message => message
  | .runtime message => message
  | .duplicateSeries => "duplicate series"

end AccessRules
