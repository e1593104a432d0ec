import AccessRules.Text.Blank

/-!
# Searching and splitting texts

Occurrences of a text in another are found from the left and do not overlap. The empty text
occurs in front of every character and at the end.
-/

namespace AccessRules.Text

/-- What is in front of the first occurrence of `needle`, and what is behind it. -/
def cutAt? (needle : List Char) : List Char → Option (List Char × List Char)
  | [] => if needle.isEmpty then some ([], []) else none
  | c :: rest =>
      if needle.isPrefixOf (c :: rest) then some ([], (c :: rest).drop needle.length)
      else (cutAt? needle rest).map fun parts => (c :: parts.1, parts.2)

/-- Does `needle` occur in the text? -/
def occursIn (needle text : List Char) : Bool := (cutAt? needle text).isSome

/-- The pieces of a text between the first occurrences of `needle`, at most `limit` of them.
`fuel` bounds the pieces; one more than the length of the text is enough for a needle that is not
empty. -/
def splitBy (needle : List Char) : (fuel limit : Nat) → List Char → List (List Char)
  | 0, _, text => [text]
  | _, 0, text => [text]
  | fuel + 1, limit + 1, text => match cutAt? needle text with
    | some (piece, rest) => piece :: splitBy needle fuel limit rest
    | none => [text]

/-- The words of a text, at most `limit` of them cut off, and the rest from its first word on. -/
def words : (fuel limit : Nat) → List Char → List (List Char)
  | 0, _, _ => []
  | fuel + 1, limit, text => match text.dropWhile isBlank with
    | [] => []
    | c :: rest => match limit with
      | 0 => [c :: rest]
      | limit + 1 =>
          (c :: rest).takeWhile (!isBlank ·) ::
            words fuel limit ((c :: rest).dropWhile (!isBlank ·))

/-- How often `needle` occurs. -/
def countOccurrences (needle text : List Char) : Nat :=
  if needle.isEmpty then text.length + 1
  else (splitBy needle (text.length + 1) (text.length + 1) text).length - 1

/-- Texts one after another with `separator` between them. -/
def joinWith (separator : List Char) : List (List Char) → List Char
  | [] => []
  | [piece] => piece
  | piece :: rest => piece ++ separator ++ joinWith separator rest

/-- Put `filling` in front of each of the first `limit` places of a text. -/
def interleave (filling : List Char) : (limit : Nat) → List Char → List Char
  | 0, text => text
  | _ + 1, [] => filling
  | limit + 1, c :: rest => filling ++ c :: interleave filling limit rest

/-- The text with the first `limit` occurrences of `old` replaced by `new`. -/
def replaceBy (old new : List Char) (limit : Nat) (text : List Char) : List Char :=
  if old.isEmpty then interleave new limit text
  else joinWith new (splitBy old (text.length + 1) limit text)

end AccessRules.Text
