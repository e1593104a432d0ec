import AccessRules.Text.Utf8

/-!
# Encodings of Unicode

A text may be written in units of one, two or four bytes, the units of more than one byte in
either order. A mark of byte order at the front tells which; without one, the zeros among the
first bytes tell, as long as the text begins with plain characters.

* `Encoding.detect` — the encoding of some bytes, and the bytes behind the mark of byte order;
* `Encoding.decode?` — the characters that bytes in an encoding stand for.
-/

namespace AccessRules.Text

/-- An encoding of characters: the size of its units, and for units of more than one byte whether
the high byte comes first. -/
inductive Encoding where
  | bytes
  | pairs (highFirst : Bool)
  | quads (highFirst : Bool)
  deriving DecidableEq, Repr

namespace Encoding

/-- The encoding that the zeros among the first bytes tell. -/
def ofZeros : List UInt8 → Encoding
  | a :: b :: c :: d :: _ =>
      if a == 0 then (if b == 0 then .quads true else .pairs true)
      else if b == 0 then (if c == 0 && d == 0 then .quads false else .pairs false)
      else .bytes
  | [a, b] => if a == 0 then .pairs true else if b == 0 then .pairs false else .bytes
  | _ => .bytes

/-- The marks of byte order, longer ones before those that they begin with. -/
def marks : List (List UInt8 × Encoding) :=
  [([0x00, 0x00, 0xFE, 0xFF], .quads true), ([0xFF, 0xFE, 0x00, 0x00], .quads false),
   ([0xFE, 0xFF], .pairs true), ([0xFF, 0xFE], .pairs false), ([0xEF, 0xBB, 0xBF], .bytes)]

/-- The encoding of some bytes, and the bytes behind the mark of byte order. -/
def detect (bytes : List UInt8) : Encoding × List UInt8 :=
  match marks.find? fun mark => mark.1.isPrefixOf bytes with
  | some (mark, encoding) => (encoding, bytes.drop mark.length)
  | none => (ofZeros bytes, bytes)

/-- A number from its bytes, the first one the highest. -/
def ofBytes (bytes : List UInt8) : Nat :=
  bytes.foldl (fun value byte => value * 256 + byte.toNat) 0

/-- Units of two bytes; `none` when a byte is left over. -/
def pairUnits? (highFirst : Bool) : List UInt8 → Option (List Nat)
  | [] => some []
  | a :: b :: rest =>
      (pairUnits? highFirst rest).map (ofBytes (if highFirst then [a, b] else [b, a]) :: ·)
  | [_] => none

/-- Units of four bytes; `none` when bytes are left over. -/
def quadUnits? (highFirst : Bool) : List UInt8 → Option (List Nat)
  | [] => some []
  | a :: b :: c :: d :: rest =>
      (quadUnits? highFirst rest).map
        (ofBytes (if highFirst then [a, b, c, d] else [d, c, b, a]) :: ·)
  | _ => none

/-- The character of a code; half a character stands for the replacement character. -/
def charOf? (code : Nat) : Option Char :=
  if code.isValidChar then some (Char.ofNat code)
  else if code < 0x110000 then some '\uFFFD'
  else none

/-- The characters of units of two bytes: two halves in a row make a character. -/
def ofPairUnits : List Nat → List Char
  | high :: low :: rest =>
      if 0xD800 ≤ high && high < 0xDC00 && 0xDC00 ≤ low && low < 0xE000 then
        Char.ofNat (0x10000 + (high - 0xD800) * 0x400 + (low - 0xDC00)) :: ofPairUnits rest
      else (charOf? high).getD '\uFFFD' :: ofPairUnits (low :: rest)
  | [unit] => [(charOf? unit).getD '\uFFFD']
  | [] => []

/-- Put the replacement character for every half of a character that is written as if it were a
character. -/
def replaceHalves : List UInt8 → List UInt8
  | a :: b :: c :: rest =>
      if a == 0xED && 0xA0 ≤ b && b < 0xC0 && 0x80 ≤ c && c < 0xC0 then
        0xEF :: 0xBF :: 0xBD :: replaceHalves rest
      else a :: replaceHalves (b :: c :: rest)
  | others => others

/-- The characters that bytes in an encoding stand for. Halves of characters do not make them
unreadable in any encoding; texts hold whole characters only, so they become the replacement
character. -/
def decode? (encoding : Encoding) (bytes : List UInt8) : Option (List Char) :=
  match encoding with
  | .bytes => Utf8.decode? bytes <|> Utf8.decode? (replaceHalves bytes)
  | .pairs highFirst => (pairUnits? highFirst bytes).map ofPairUnits
  | .quads highFirst => (quadUnits? highFirst bytes).bind fun units => units.mapM charOf?

/-- The characters of bytes in whatever encoding they are found to be. -/
def read? (bytes : List UInt8) : Option (List Char) :=
  let (encoding, rest) := detect bytes
  encoding.decode? rest

end Encoding

end AccessRules.Text
