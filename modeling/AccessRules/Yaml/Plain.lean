import AccessRules.Calendar
import AccessRules.Yaml.Node

/-!
# Kinds of plain scalars

A plain scalar without a tag has the kind that its text looks like: nothing, a truth value, a
number, a date; a text, when it looks like none of them.

* `Tag.ofPlain` — the kind of a plain scalar.
-/

namespace AccessRules.Yaml

open AccessRules.Number (isPlainDigit)

/-- Is the character a digit or an underscore? -/
def isGroupedDigit (c : Char) : Bool := isPlainDigit c || c == '_'

/-- Do all characters satisfy `p`, and is there one? -/
def isRun (p : Char → Bool) (text : List Char) : Bool := !text.isEmpty && text.all p

/-- The text behind a sign, if there is one. -/
def unsigned (text : List Char) : List Char := (Number.splitSign text).2

/-- What follows groups of a colon and a number below sixty; `none` when a colon has no such
number behind it. -/
def pastSixties? : List Char → Option (List Char)
  | ':' :: a :: b :: rest =>
      if isPlainDigit a && isPlainDigit b then
        (if a ≤ '5' then pastSixties? rest else none)
      else if isPlainDigit a then pastSixties? (b :: rest)
      else none
  | [':', a] => if isPlainDigit a then some [] else none
  | [':'] => none
  | rest => some rest

/-- An exponent with its sign, or none. -/
def isExponent : List Char → Bool
  | [] => true
  | mark :: sign :: digits =>
      (mark == 'e' || mark == 'E') && (sign == '+' || sign == '-') && isRun isPlainDigit digits
  | _ => false

/-- Does the text look like a float? -/
def isFloat (text : List Char) : Bool :=
  let body := unsigned text
  let whole := body.takeWhile isGroupedDigit
  let rest := body.drop whole.length
  let beginsWithDigit := body.head?.any isPlainDigit
  (beginsWithDigit && rest.head? == some '.' &&
      isExponent (rest.tail.dropWhile isGroupedDigit)) ||
    (match text with
      | '.' :: digit :: rest => isPlainDigit digit && isExponent (rest.dropWhile isGroupedDigit)
      | _ => false) ||
    (beginsWithDigit && rest.head? == some ':' && match pastSixties? rest with
      | some ('.' :: rest) => rest.all isGroupedDigit
      | _ => false) ||
    [".inf", ".Inf", ".INF"].contains (String.ofList body) ||
    [".nan", ".NaN", ".NAN"].contains (String.ofList text)

/-- Does the text look like an integer? -/
def isInt (text : List Char) : Bool :=
  match unsigned text with
  | ['0'] => true
  | '0' :: 'b' :: rest => isRun (fun c => c == '0' || c == '1' || c == '_') rest
  | '0' :: 'x' :: rest => isRun (fun c => (Text.hexValue? c).isSome || c == '_') rest
  | '0' :: rest => rest.all fun c => ('0' ≤ c && c ≤ '7') || c == '_'
  | body =>
      body.head?.any isPlainDigit && pastSixties? (body.dropWhile isGroupedDigit) == some []

/-- The texts of truth values. -/
def truthTexts : List String :=
  ["yes", "Yes", "YES", "no", "No", "NO", "true", "True", "TRUE", "false", "False", "FALSE",
   "on", "On", "ON", "off", "Off", "OFF"]

/-- Does the text look like a date, or like a time on a date? A date alone has two digits for the
month and for the day. -/
def isTimestamp (text : List Char) : Bool :=
  (Stamp.ofText? text).any fun stamp => stamp.time.isSome || text.length == 10

/-- The text without a line feed at its end. -/
def withoutFinalBreak (text : List Char) : List Char :=
  if text.getLast? == some '\n' then text.dropLast else text

/-- The kind of a plain scalar. -/
def Tag.ofPlain (text : String) : Tag :=
  if text.isEmpty then .null
  else
    let chars := withoutFinalBreak text.toList
    let word := String.ofList chars
    if truthTexts.contains word then .bool
    else if isFloat chars then .float
    else if isInt chars then .int
    else if word == "<<" then .merge
    else if ["~", "null", "Null", "NULL"].contains word then .null
    else if isTimestamp chars then .timestamp
    else if word == "=" then .value
    else if ["!", "&", "*"].contains word then .unknown
    else .text

end AccessRules.Yaml
