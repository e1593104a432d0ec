/-!
# UTF-8

Characters written as one to four bytes. Only the shortest form of a character is read, and halves
of characters are not.

* `Utf8.decode?` — the characters of some bytes.
-/

namespace AccessRules.Text.Utf8

/-- The six bits of a byte that continues a character. -/
def continuation? (byte : UInt8) : Option Nat :=
  if 0x80 ≤ byte && byte < 0xC0 then some (byte.toNat - 0x80) else none

/-- The character of a code whose form must not be shorter than for `least`. -/
def charFrom? (least code : Nat) : Option Char :=
  if least ≤ code && code.isValidChar then some (Char.ofNat code) else none

/-- The characters of some bytes; `none` when they are not UTF-8. -/
def decode? : List UInt8 → Option (List Char)
  | [] => some []
  | a :: rest =>
      if a < 0x80 then (decode? rest).map (Char.ofNat a.toNat :: ·)
      else match rest with
        | [] => none
        | b :: rest =>
            if a < 0xC0 then none
            else if a < 0xE0 then do
              let c ← charFrom? 0x80 ((a.toNat - 0xC0) * 0x40 + (← continuation? b))
              return c :: (← decode? rest)
            else match rest with
              | [] => none
              | c :: rest =>
                  if a < 0xF0 then do
                    let code := ((a.toNat - 0xE0) * 0x40 + (← continuation? b)) * 0x40 +
                      (← continuation? c)
                    return (← charFrom? 0x800 code) :: (← decode? rest)
                  else match rest with
                    | [] => none
                    | d :: rest => do
                        let code := (((a.toNat - 0xF0) * 0x40 + (← continuation? b)) * 0x40 +
                          (← continuation? c)) * 0x40 + (← continuation? d)
                        return (← charFrom? 0x10000 code) :: (← decode? rest)

end AccessRules.Text.Utf8
