import AccessRules.Condition.Slice
import AccessRules.Document.Written

/-!
# Variables

A variable is a path: names and positions with a dot between them. It is followed into objects by
name, and into lists and texts by position. Whatever stops on the way gives a default, with one
exception: a position that does not exist is a fault.
-/

namespace AccessRules.Condition

/-- The parts of a text between the separators for which `isSeparator` holds; never empty. -/
def splitAtEach (isSeparator : Char → Bool) : List Char → List (List Char)
  | [] => [[]]
  | c :: rest =>
      if isSeparator c then [] :: splitAtEach isSeparator rest
      else match splitAtEach isSeparator rest with
        | part :: parts => (c :: part) :: parts
        | [] => [[c]]

/-- The parts of a path. -/
def pathParts (path : String) : List String :=
  (splitAtEach (· == '.') path.toList).map String.ofList

/-- Follow one part of a path; `none` when there is nothing of that name. -/
def step (document : Document) (part : String) : Except Fault (Option Document) :=
  let at? {α : Type} (items : List α) (wrap : α → Document) : Except Fault (Option Document) :=
    match Number.readInt part.toList with
    | .error _ => .ok none
    | .ok position => match itemAt? items position with
      | some item => .ok (some (wrap item))
      | none => .error .outOfRange
  match document with
  | .object members => .ok (Members.get? members part)
  | .array items => at? items id
  | .text value | .guarded value => at? value.toList fun c => .text (String.singleton c)
  | _ => .ok none

/-- Follow a path part by part. -/
def follow (document : Document) : List String → Except Fault (Option Document)
  | [] => .ok (some document)
  | part :: rest => do
      match ← step document part with
      | some next => follow next rest
      | none => return none

/-- Is it no name at all: nothing, or the empty text? -/
def isNoName : Document → Bool
  | .null => true
  | .text value => value.isEmpty
  | .guarded value => value.isEmpty
  | _ => false

/-- The value of a variable; `none` when there is none. A name that is none stands for all the
data, and a name that cannot be written for no variable. -/
def variableIn? (data name : Document) : Except Fault (Option Document) :=
  if isNoName name then .ok (some data)
  else match name.written with
    | .ok path => follow data (pathParts path)
    | .error _ => .ok none

/-- Is the variable without a value, or is its value nothing or the empty text? -/
def isMissing (data name : Document) : Except Fault Bool := do
  match ← variableIn? data name with
  | some value => return isNoName value
  | none => return true

/-- The names among `names` whose variables are missing. -/
def missingAmong (data : Document) : List Document → Except Fault (List Document)
  | [] => .ok []
  | name :: rest => do
      let isGone ← isMissing data name
      let others ← missingAmong data rest
      return if isGone then name :: others else others

/-- The missing ones among names, which may be given in a list. -/
def missing (data : Document) : List Document → Except Fault (List Document)
  | .array names :: _ => missingAmong data names
  | names => missingAmong data names

/-- How many items, characters or members there are. -/
def size : Document → Except Fault Nat
  | .array items => .ok items.length
  | .object members => .ok members.length
  | .text value => .ok value.length
  | .guarded value => .ok value.length
  | _ => .error .wrongKind

/-- The missing ones among `names`; none of them once `needed` of the names are there. -/
def missingSome (data needed names : Document) : Except Fault (List Document) := do
  let gone ← missing data [names]
  let total ← size names
  match needed.numeric? with
  | some wanted =>
      let present : Numeric := .int ((total : Int) - gone.length)
      return if wanted.less present || wanted.equal present then [] else gone
  | none => .error .wrongKind

end AccessRules.Condition
