import AccessRules.Document.Written
import AccessRules.Number.Fixed
import AccessRules.Text.Digit

/-!
# Message templates

The text of an event may be a template whose arguments come one after another, or from an object
by name. A directive is a percent sign, the name of an argument in parentheses, flags, a least
width, a precision and the letter of a conversion; a doubled percent sign stands for itself.

* `fill` — the text of a template with its arguments filled in.
-/

namespace AccessRules.Log

open AccessRules.Text
open AccessRules.Number

/-- What a template takes its arguments from. -/
inductive Arguments where
  /-- Arguments one after another. -/
  | sequence (items : List Document)
  /-- A single value, which may have named or numbered parts. -/
  | single (value : Document)

/-- The flags of a directive. -/
structure Flags where
  left : Bool
  plus : Bool
  blank : Bool
  alternate : Bool
  zero : Bool

/-- No flags. -/
def Flags.none : Flags := ⟨false, false, false, false, false⟩

/-- Read flags; later ones add to earlier ones. -/
def Flags.read (flags : Flags) : List Char → Flags × List Char
  | '-' :: rest => Flags.read { flags with left := true } rest
  | '+' :: rest => Flags.read { flags with plus := true } rest
  | ' ' :: rest => Flags.read { flags with blank := true } rest
  | '#' :: rest => Flags.read { flags with alternate := true } rest
  | '0' :: rest => Flags.read { flags with zero := true } rest
  | rest => (flags, rest)

/-- The arguments that are left, and whether any may be left over at the end. -/
structure Supply where
  items : List Document
  named : Option Document

/-- The supply of arguments. -/
def Arguments.supply : Arguments → Supply
  | .sequence items => ⟨items, none⟩
  | .single value => match value with
    | .object _ | .array _ => ⟨[value], some value⟩
    | value => ⟨[value], none⟩

/-- The next argument. -/
def Supply.next (supply : Supply) : Except Fault (Document × Supply) :=
  match supply.items with
  | item :: rest => .ok (item, { supply with items := rest })
  | [] => .error .wrongKind

/-- The argument of a name, which is the only one left afterwards. -/
def Supply.pick (supply : Supply) (name : String) : Except Fault Supply :=
  match supply.named with
  | some (.object members) => match Members.get? members name with
    | some value => .ok { supply with items := [value] }
    | none => .error .missingKey
  | _ => .error .wrongKind

/-- The name up to its closing parenthesis, and what follows; parentheses inside are paired. -/
def argumentName (depth : Nat) : List Char → Option (List Char × List Char)
  | [] => none
  | ')' :: rest => match depth with
    | 0 => some ([], rest)
    | depth + 1 => (argumentName depth rest).map fun (name, rest) => (')' :: name, rest)
  | '(' :: rest => (argumentName (depth + 1) rest).map fun (name, rest) => ('(' :: name, rest)
  | c :: rest => (argumentName depth rest).map fun (name, rest) => (c :: name, rest)

/-- The widths and precisions that are taken lie below this number. -/
def amountLimit : Nat := Nat.pow 2 31

/-- A width or precision: digits, or a star for the next argument. -/
def amount (tooBig : ValueFault) (supply : Supply) (text : List Char) :
    Except Fault (Option Int × Supply × List Char) :=
  match text with
  | '*' :: rest => do
      match ← supply.next with
      | (.int value, supply) =>
          if value.natAbs < amountLimit then return (some value, supply, rest)
          else .error .tooLarge
      | (.bool value, supply) => return (some (if value then 1 else 0), supply, rest)
      | _ => .error .wrongKind
  | text =>
      let digits := text.takeWhile isPlainDigit
      let value := digitsValue digits
      if value < amountLimit then
        .ok (if digits.isEmpty then none else some (value : Int), supply,
          text.dropWhile isPlainDigit)
      else .error (.wrongValue tooBig)

/-- A text with everything outside ASCII escaped. -/
def asciiOnly (text : List Char) : List Char :=
  text.flatMap fun c =>
    if c.toNat < 0x80 then [c]
    else if c.toNat < 0x100 then '\\' :: 'x' :: hexDigits 2 c.toNat
    else if c.toNat < 0x10000 then '\\' :: 'u' :: hexDigits 4 c.toNat
    else '\\' :: 'U' :: hexDigits 8 c.toNat

/-- A float without its fraction. -/
def truncate (x : Float) : Except Fault Int :=
  match Exact.ofFloat? x with
  | some value => .ok (Int.tdiv (value.signed * Nat.pow 2 value.exponent.toNat)
      (Nat.pow 2 (-value.exponent).toNat))
  | none => if x.isNaN then .error (.wrongValue .notANumber) else .error .tooLarge

/-- The integer of an argument for a conversion to digits. Only decimal digits take floats. -/
def integerOf (decimal : Bool) : Document → Except Fault Int
  | .int value => .ok value
  | .bool value => .ok (if value then 1 else 0)
  | .float value => if decimal then truncate value else .error .wrongKind
  | _ => .error .wrongKind

/-- A converted argument: its sign, what stands between sign and padding zeros, and the rest. -/
structure Converted where
  numeric : Bool
  negative : Bool
  lead : List Char
  body : List Char

/-- An integer in the base of a letter. -/
def convertInteger (flags : Flags) (precision : Option Int) (letter : Char) (value : Int) :
    Except Fault Converted := do
  let (base, lead) : Nat × List Char :=
    if letter == 'o' then (8, ['0', 'o'])
    else if letter == 'x' || letter == 'X' then (16, ['0', letter])
    else (10, [])
  let _ ← if base = 10 then writeInt value else pure ""
  let digits := Nat.toDigits base value.natAbs
  let digits := if letter == 'X' then digits.map Char.toUpper else digits
  let zeros := (precision.getD 0).toNat - digits.length
  return ⟨true, value < 0, if flags.alternate then lead else [],
    List.replicate zeros '0' ++ digits⟩

/-- A float in the notation of a letter. -/
def convertFloat (flags : Flags) (precision : Option Int) (letter : Char) (value : Float) :
    Converted :=
  let digits := ((precision.filter (0 ≤ ·)).getD 6).toNat
  let body := match Exact.ofFloat? value with
    | none => if value.isNaN then "nan".toList else "inf".toList
    | some exact =>
        let q := exact.quotient
        let kind := letter.toLower
        if kind == 'f' then fixedText q digits flags.alternate
        else if kind == 'e' then scientificText q digits flags.alternate
        else generalText q digits flags.alternate
  ⟨true, Numeric.isNegative value && !value.isNaN, [],
    if letter.isUpper then body.map Char.toUpper else body⟩

/-- The text of an argument, cut to the precision. -/
def convertText (precision : Option Int) (text : List Char) : Converted :=
  ⟨false, false, [], match precision with
    | some limit => text.take limit.toNat
    | none => text⟩

/-- Convert an argument by a letter. `index` is where the letter stands. -/
def convert (flags : Flags) (precision : Option Int) (letter : Char) (index : Nat)
    (argument : Document) : Except Fault Converted := do
  if letter == 's' then return convertText precision (← argument.written).toList
  else if letter == 'r' then return convertText precision (← argument.display).toList
  else if letter == 'a' then return convertText precision (asciiOnly (← argument.display).toList)
  else if letter == 'd' || letter == 'i' || letter == 'u' then
    convertInteger flags precision 'd' (← integerOf true argument)
  else if letter == 'o' || letter == 'x' || letter == 'X' then
    convertInteger flags precision letter (← integerOf false argument)
  else if ['e', 'E', 'f', 'F', 'g', 'G'].contains letter then
    match argument.numeric? with
    | some number => return convertFloat flags precision letter (← number.toFloat)
    | none => .error .wrongKind
  else if letter == 'c' then
    match argument with
    | .int code =>
        if 0 ≤ code && code < 0x110000 then
          return convertText none [Char.ofNat code.toNat]
        else .error .tooLarge
    | .bool value => return convertText none [if value then '\x01' else '\x00']
    | .text value =>
        if value.length = 1 then return convertText none value.toList else .error .wrongKind
    | _ => .error .wrongKind
  else .error (.wrongValue (.unknownConversion letter index))

/-- A converted argument, padded to the width. -/
def Converted.padded (flags : Flags) (width : Nat) (part : Converted) : List Char :=
  let sign : List Char :=
    if !part.numeric then []
    else if part.negative then ['-']
    else if flags.plus then ['+']
    else if flags.blank then [' ']
    else []
  let front := sign ++ part.lead
  let missing := width - (front.length + part.body.length)
  if flags.left then front ++ part.body ++ List.replicate missing ' '
  else if part.numeric && flags.zero then front ++ List.replicate missing '0' ++ part.body
  else List.replicate missing ' ' ++ front ++ part.body

/-- A directive behind its percent sign: its text, the arguments left, and what follows. `length`
is the length of the whole template. -/
def directive (length : Nat) (supply : Supply) (text : List Char) :
    Except Fault (List Char × Supply × List Char) := do
  let (supply, text) ← match text with
    | '(' :: rest => match supply.named with
      | none => .error .wrongKind
      | some _ => match argumentName 0 rest with
        | some (name, rest) => do
            pure (← supply.pick (String.ofList name), rest)
        | none => .error (.wrongValue .incompleteName)
    | text => pure (supply, text)
  let (flags, text) := Flags.none.read text
  let (width, supply, text) ← amount .widthTooBig supply text
  let flags := if width.any (· < 0) then { flags with left := true } else flags
  let (precision, supply, text) ← match text with
    | '.' :: rest => do
        let (precision, supply, rest) ← amount .precisionTooBig supply rest
        pure (some (max (precision.getD 0) 0), supply, rest)
    | text => pure (none, supply, text)
  let text := match text with
    | c :: rest => if c == 'h' || c == 'l' || c == 'L' then rest else text
    | [] => text
  match text with
  | [] => .error (.wrongValue .incompleteConversion)
  | letter :: rest => do
      let (argument, supply) ← supply.next
      let part ← convert flags precision letter (length - rest.length - 1) argument
      return (part.padded flags (width.getD 0).natAbs, supply, rest)

/-- Fill a template from a supply. `bound` bounds the directives; the length of the template is
enough. -/
def fillFrom (length : Nat) : (bound : Nat) → Supply → List Char → Except Fault (List Char × Supply)
  | 0, supply, text => .ok (text, supply)
  | bound + 1, supply, text => do
      let plain := text.takeWhile (· != '%')
      match text.dropWhile (· != '%') with
      | [] => return (plain, supply)
      | _ :: '%' :: rest => do
          let (others, supply) ← fillFrom length bound supply rest
          return (plain ++ '%' :: others, supply)
      | _ :: rest => do
          let (part, supply, rest) ← directive length supply rest
          let (others, supply) ← fillFrom length bound supply rest
          return (plain ++ part ++ others, supply)

/-- The text of a template with its arguments filled in. Arguments one after another have to be
used up. -/
def fill (template : String) (arguments : Arguments) : Except Fault String := do
  let text := template.toList
  let (filled, supply) ← fillFrom text.length (text.length + 1) arguments.supply text
  if !supply.items.isEmpty && supply.named.isNone then .error .wrongKind
  else return String.ofList filled

end AccessRules.Log
