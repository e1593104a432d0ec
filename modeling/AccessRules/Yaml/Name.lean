import AccessRules.Number.Read
import AccessRules.Text.Digit
import AccessRules.Text.Utf8
import AccessRules.Yaml.Token

/-!
# Names in YAML

The names of anchors, tags and directives. Each reader starts at the first character of a name and
gives it with the position behind it.
-/

namespace AccessRules.Yaml

open AccessRules.Text

/-- May the character stand in a name? -/
def isNameChar (c : Char) : Bool := c.isAlphanum || c == '-' || c == '_'

/-- May the character stand in an address? -/
def isAddressChar (c : Char) : Bool :=
  c.isAlphanum || "-;/?:@&=+$,_.!~*'()[]%".toList.contains c

/-- Go on only when `p` holds of the next character or of the end. -/
def expect (p : Option Char → Bool) (cursor : Cursor) : Except Trouble Unit :=
  if p cursor.peek then .ok () else .error .malformed

/-- A name of at least one character. -/
def readName (cursor : Cursor) : Except Trouble (String × Cursor) :=
  let name := cursor.rest.takeWhile isNameChar
  if name.isEmpty then .error .malformed
  else .ok (String.ofList name, cursor.forward name.length)

/-- The name of an anchor, behind its mark. -/
def readAnchor (cursor : Cursor) : Except Trouble (String × Cursor) := do
  let (name, cursor) ← readName cursor.step
  expect (fun c => Cursor.isGap c || c.any fun c => "?:,]\x7d%@\x60".toList.contains c) cursor
  return (name, cursor)

/-- The bytes of a run of escapes: a percent sign and two hexadecimal digits each. -/
def escapedBytes : List Char → Except Trouble (List UInt8)
  | '%' :: a :: b :: rest => match hexValue? a, hexValue? b with
    | some high, some low => do return UInt8.ofNat (high * 16 + low) :: (← escapedBytes rest)
    | _, _ => .error .malformed
  | '%' :: _ => .error .malformed
  | _ => .ok []

/-- The characters of an address. Escapes stand for bytes of UTF-8. -/
def addressBody : (bound : Nat) → Cursor → Except Trouble (List Char × Cursor)
  | 0, cursor => .ok ([], cursor)
  | bound + 1, cursor => match cursor.peek with
    | none => .ok ([], cursor)
    | some c =>
        if c == '%' then do
          let bytes ← escapedBytes cursor.rest
          match Utf8.decode? bytes with
          | none => .error .malformed
          | some chars =>
              let (others, cursor) ← addressBody bound (cursor.forward (3 * bytes.length))
              return (chars ++ others, cursor)
        else if isAddressChar c then do
          let (others, cursor) ← addressBody bound cursor.step
          return (c :: others, cursor)
        else .ok ([], cursor)

/-- An address of at least one character. -/
def readAddress (cursor : Cursor) : Except Trouble (String × Cursor) := do
  let (chars, behind) ← addressBody (cursor.rest.length + 1) cursor
  if behind.index == cursor.index then .error .malformed
  else return (String.ofList chars, behind)

/-- A handle of tags: an exclamation mark, or a name between two of them. -/
def readHandle (cursor : Cursor) : Except Trouble (String × Cursor) :=
  match cursor.rest with
  | '!' :: ' ' :: _ => .ok ("!", cursor.step)
  | '!' :: rest =>
      let name := rest.takeWhile isNameChar
      if rest[name.length]? == some '!' then
        .ok (String.ofList ('!' :: name ++ ['!']), cursor.forward (name.length + 2))
      else .error .malformed
  | _ => .error .malformed

/-- A tag: an address between angle brackets, a lone exclamation mark, or an address behind a
handle. -/
def readTag (cursor : Cursor) : Except Trouble (TagText × Cursor) := do
  let (tag, cursor) ←
    if cursor.peekAt 1 == some '<' then do
      let (suffix, cursor) ← readAddress (cursor.forward 2)
      expect (· == some '>') cursor
      pure (TagText.mk none suffix, cursor.step)
    else if Cursor.isGap (cursor.peekAt 1) then pure (TagText.mk none "!", cursor.step)
    else do
      let word := (cursor.rest.drop 1).takeWhile fun c => !Cursor.isSpaceOrEnd (some c)
      let (handle, cursor) ←
        if word.contains '!' then readHandle cursor else pure ("!", cursor.step)
      let (suffix, cursor) ← readAddress cursor
      pure (TagText.mk (some handle) suffix, cursor)
  expect Cursor.isSpaceOrEnd cursor
  return (tag, cursor)

/-- A number of at least one digit, and of no more digits than integers are read with. -/
def readNumber (cursor : Cursor) : Except Trouble (Nat × Cursor) :=
  let digits := cursor.rest.takeWhile Char.isDigit
  if digits.isEmpty then .error .malformed
  else if Number.digitLimit < digits.length then
    .error (.fault (.wrongValue (.tooManyDigits digits.length)))
  else
    .ok (digits.foldl (fun value c => value * 10 + (c.toNat - 48)) 0,
      cursor.forward digits.length)

/-- A directive, with the rest of its line. -/
def readDirective (cursor : Cursor) : Except Trouble (Directive × Cursor) := do
  let (name, cursor) ← readName cursor.step
  expect Cursor.isSpaceOrEnd cursor
  let (directive, cursor) ←
    if name == "YAML" then do
      let (major, cursor) ← readNumber cursor.skipSpaces
      expect (· == some '.') cursor
      let (_, cursor) ← readNumber cursor.step
      expect Cursor.isSpaceOrEnd cursor
      pure (Directive.version major, cursor)
    else if name == "TAG" then do
      let (handle, cursor) ← readHandle cursor.skipSpaces
      expect (· == some ' ') cursor
      let (lead, cursor) ← readAddress cursor.skipSpaces
      expect Cursor.isSpaceOrEnd cursor
      pure (Directive.tag handle lead, cursor)
    else pure (Directive.other, cursor.skipWhile (!isBreak ·))
  return (directive, ← cursor.endLine)

end AccessRules.Yaml
