import AccessRules.Condition.Compare
import AccessRules.Condition.Slice
import AccessRules.Text.LetterCase
import AccessRules.Text.Search

/-!
# Methods of texts and lists

The methods that conditions may call by name. Each takes a fixed range of arguments of fixed
kinds; what a method of a text gives back is never guarded.
-/

namespace AccessRules.Condition

open AccessRules.Text

/-- A method of a text. -/
inductive TextMethod where
  | upper
  | lower
  | strip
  | split
  | startsWith
  | endsWith
  | count
  | replace
  deriving DecidableEq, Repr

/-- The method of a text with a name. -/
def TextMethod.ofName? (name : String) : Option TextMethod :=
  [("upper", upper), ("lower", lower), ("strip", strip), ("split", split),
    ("startswith", startsWith), ("endswith", endsWith), ("count", count),
    ("replace", replace)].lookup name

/-- The characters of an argument that must be a text. -/
def textArgument : Document → Except Fault (List Char)
  | .text value | .guarded value => .ok value.toList
  | _ => .error .wrongKind

/-- A count that an argument gives; a negative one is no limit. -/
def limitArgument (unlimited : Nat) : Document → Except Fault Nat
  | .int value =>
      if value < -(Nat.pow 2 63) || Nat.pow 2 63 ≤ value then .error .tooLarge
      else .ok (if value < 0 then unlimited else min unlimited value.toNat)
  | .bool value => .ok (min unlimited (if value then 1 else 0))
  | _ => .error .wrongKind

/-- The part of a text that the optional bounds in `bounds` select. Nothing is selected, not even
the empty part at the end, when the first bound is behind the end. -/
def window? (text : List Char) (bounds : List Document) : Except Fault (Option (List Char)) := do
  let pick : Except Fault (Option Int × Option Int) := match bounds with
    | [] => .ok (none, none)
    | [first] => do return (← bound? first, none)
    | [first, last] => do return (← bound? first, ← bound? last)
    | _ => .error .wrongKind
  let (first, last) ← pick
  let start := first.getD 0
  let stop := (last.map (clampBound text.length)).getD text.length
  if start > text.length || clampBound text.length start > stop then return none
  else return some (slice text first last)

/-- Split a text at a separator, or at blanks when that is nothing. -/
def splitText (text : List Char) (separator : Document) (limit : Nat) :
    Except Fault Document := do
  let pieces : List (List Char) ← match separator with
    | .null => pure (words (text.length + 1) limit text)
    | other => do
        let needle ← textArgument other
        if needle.isEmpty then .error (.wrongValue .emptySeparator)
        else pure (splitBy needle (text.length + 1) limit text)
  return .texts (pieces.map String.ofList)

/-- Call a method of a text. -/
def TextMethod.call (text : List Char) : TextMethod → List Document → Except Fault Document
  | upper, [] => .ok (.text (String.ofList (Text.upper text)))
  | lower, [] => .ok (.text (String.ofList (Text.lower text)))
  | strip, [] => .ok (.text (String.ofList (trim text)))
  | strip, [.null] => .ok (.text (String.ofList (trim text)))
  | strip, [characters] => do
      let set ← textArgument characters
      return .text (String.ofList (trimBoth set.contains text))
  | split, [] => splitText text .null (text.length + 1)
  | split, [separator] => splitText text separator (text.length + 1)
  | split, [separator, limit] => do
      splitText text separator (← limitArgument (text.length + 1) limit)
  | startsWith, head :: bounds => do
      let part ← window? text bounds
      let needle ← textArgument head
      return .bool (part.any (needle.isPrefixOf ·))
  | endsWith, tail :: bounds => do
      let part ← window? text bounds
      let needle ← textArgument tail
      return .bool (part.any (needle.isSuffixOf ·))
  | count, item :: bounds => do
      let part ← window? text bounds
      let needle ← textArgument item
      return .int ((part.map (countOccurrences needle)).getD 0)
  | replace, old :: new :: limits => do
      let needle ← textArgument old
      let filling ← textArgument new
      let limit ← match limits with
        | [] => pure (text.length + 1)
        | [limit] => limitArgument (text.length + 1) limit
        | _ => .error .wrongKind
      return .text (String.ofList (replaceBy needle filling limit text))
  | _, _ => .error .wrongKind

/-- The arguments of a call, which have to be something to be gone through. -/
def argumentsOf (document : Document) : Except Fault (List Document) :=
  document.elements.mapError fun _ => .wrongKind

/-- Call the method of a name on a value, with arguments to be gone through. -/
def callMethod (target : Document) (name : String) (arguments : Document) :
    Except Fault Document :=
  match target with
  | .text value | .guarded value => match TextMethod.ofName? name with
    | some method => do method.call value.toList (← argumentsOf arguments)
    | none => .error .unknownName
  | .array items =>
      if name == "count" then do
        match ← argumentsOf arguments with
        | [item] => return .int (items.countP (·.equal item))
        | _ => .error .wrongKind
      else .error .unknownName
  | _ => .error .unknownName

end AccessRules.Condition
