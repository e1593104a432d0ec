/-!
# Base64

Bytes written as letters, six bits each. Characters outside the alphabet are passed over, and what
stands behind the padding does not count.

* `Base64.decode?` — the bytes of a text.
-/

namespace AccessRules.Text.Base64

/-- The six bits of a letter. -/
def bits? (c : Char) : Option Nat :=
  if c.isUpper then some (c.toNat - 65)
  else if c.isLower then some (c.toNat - 71)
  else if c.isDigit then some (c.toNat + 4)
  else if c == '+' then some 62
  else if c == '/' then some 63
  else none

/-- The bytes of a text behind letters of an incomplete group: `held` are the `count` letters of
it, `pads` the paddings directly in front. `none` when the last group is not complete. -/
def decodeFrom? (count held pads : Nat) : List Char → Option (List UInt8)
  | [] => if count == 0 then some [] else none
  | c :: rest =>
      if c == '=' then
        if 2 ≤ count && 4 ≤ count + (pads + 1) then
          some (if count == 2 then [UInt8.ofNat (held >>> 4)]
            else [UInt8.ofNat (held >>> 10), UInt8.ofNat (held >>> 2)])
        else decodeFrom? count held (pads + if 2 ≤ count then 1 else 0) rest
      else match bits? c with
        | none => decodeFrom? count held pads rest
        | some bits =>
            let held := held * 64 + bits
            if count < 3 then decodeFrom? (count + 1) held 0 rest
            else do
              let others ← decodeFrom? 0 0 0 rest
              return UInt8.ofNat (held >>> 16) :: UInt8.ofNat (held >>> 8) ::
                UInt8.ofNat held :: others

/-- The bytes of a text; `none` when its last group of letters is not complete. -/
def decode? (text : List Char) : Option (List UInt8) := decodeFrom? 0 0 0 text

end AccessRules.Text.Base64
