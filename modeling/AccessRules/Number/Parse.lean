import AccessRules.Fault

/-!
# Numerals with reports

Reading a text as a number, or telling what is wrong with it.
-/

namespace AccessRules.Number

/-- The float that a text is written as behind a sign. -/
def parseSigned (negative : Bool) (text : String) : Except Fault Float :=
  match readSigned? negative text.toList with
  | some value => .ok value
  | none => .error (.wrongValue (.notFloat text))

/-- The float that a text is written as. -/
def parseFloat (text : String) : Except Fault Float := parseSigned false text

/-- The integer that a text is written as. -/
def parseInt (text : String) : Except Fault Int :=
  match readInt text.toList with
  | .ok value => .ok value
  | .error .malformed => .error (.wrongValue (.notInteger 10 text))
  | .error (.tooLong digits) => .error (.wrongValue (.tooManyDigits digits))

/-- The letter behind a zero that announces a base. -/
def baseLetter : (base : Nat) → Char
  | 2 => 'b'
  | 8 => 'o'
  | _ => 'x'

/-- The value of digits in a base up to sixteen; `none` without digits. -/
def digitsIn? (base : Nat) (digits : List Char) : Option Nat :=
  if digits.isEmpty then none
  else digits.foldl
    (fun value c => do return (← value) * base + (← (Text.hexValue? c).filter (· < base))) (some 0)

/-- The integer that a text without underscores is written as with base two, eight or sixteen. The
digits may be announced by a zero and the letter of the base. -/
def parseIntIn (base : Nat) (text : String) : Except Fault Int :=
  let (negative, rest) := splitSign (numeralText text.toList)
  let digits := match rest with
    | '0' :: letter :: rest =>
        if plainLower letter == baseLetter base then rest else '0' :: letter :: rest
    | rest => rest
  match digitsIn? base digits with
  | none => .error (.wrongValue (.notInteger base text))
  | some value => .ok (if negative then -(value : Int) else value)

end AccessRules.Number
