import AccessRules.Text.Digit
import AccessRules.Text.Printable

/-!
# Quoted texts

The quoted form of a text: single quotes, unless the text holds a single quote and no double
one; a backslash before the quote and before a backslash; short escapes for line feed, carriage
return and tab; and the code point of every other character that is not printable.
-/

namespace AccessRules.Text

/-- The quote that a text is written between. -/
def quoteFor (text : List Char) : Char :=
  if text.contains '\'' && !text.contains '"' then '"' else '\''

/-- One character inside `quote`s. -/
def quoteChar (quote c : Char) : List Char :=
  if c = quote || c = '\\' then ['\\', c]
  else if c = '\n' then ['\\', 'n']
  else if c = '\r' then ['\\', 'r']
  else if c = '\t' then ['\\', 't']
  else if isPrintable c then [c]
  else if c.toNat < 0x100 then '\\' :: 'x' :: hexDigits 2 c.toNat
  else if c.toNat < 0x10000 then '\\' :: 'u' :: hexDigits 4 c.toNat
  else '\\' :: 'U' :: hexDigits 8 c.toNat

/-- The quoted form, as characters. -/
def quotedChars (text : List Char) : List Char :=
  let quote := quoteFor text
  quote :: text.flatMap (quoteChar quote) ++ [quote]

/-- The quoted form of a text. -/
def quoted (text : String) : String := String.ofList (quotedChars text.toList)

end AccessRules.Text
