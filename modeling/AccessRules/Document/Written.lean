import AccessRules.Document.Basic

/-!
# The written form of documents

A text stands for itself; inside a list or an object it is quoted. Lists are written in brackets
and objects in braces. An integer with too many digits cannot be written.
-/

namespace AccessRules

open AccessRules.Text

/-- The written form of an integer within the limit of digits. -/
def writeInt (i : Int) : Except Fault String :=
  if i.natAbs < Nat.pow 10 Number.digitLimit then .ok (Number.writtenInt i)
  else .error (.wrongValue .tooLongInteger)

/-- Texts one after another with a comma and a blank between them. -/
def commaSeparated : List String → String
  | [] => ""
  | [item] => item
  | item :: rest => item ++ ", " ++ commaSeparated rest

/-- The written form of a key inside an object. -/
def Key.display : Key → Except Fault String
  | .null => .ok "None"
  | .bool value => .ok (if value then "True" else "False")
  | .int value => writeInt value
  | .float value => .ok (Number.writtenFloat value)
  | .text value => .ok (quoted value)
  | .leaf value => .ok value.display

namespace Document

mutual

/-- The written form of a document inside a list or an object. -/
def display : Document → Except Fault String
  | .null => .ok "None"
  | .bool value => .ok (if value then "True" else "False")
  | .int value => writeInt value
  | .float value => .ok (Number.writtenFloat value)
  | .text value => .ok (quoted value)
  | .guarded value => .ok (quoted value)
  | .array items => do
      return "[" ++ commaSeparated (← displayItems items) ++ "]"
  | .object members => do
      return "\x7b" ++ commaSeparated (← displayMembers members) ++ "\x7d"
  | .leaf value => .ok value.display

/-- The written forms of the items of a list. -/
def displayItems : List Document → Except Fault (List String)
  | [] => .ok []
  | item :: rest => do
      let text ← display item
      return text :: (← displayItems rest)

/-- The written forms of the members of an object. -/
def displayMembers : List (Key × Document) → Except Fault (List String)
  | [] => .ok []
  | (key, value) :: rest => do
      let name ← key.display
      let text ← display value
      return (name ++ ": " ++ text) :: (← displayMembers rest)

end

/-- The written form of a document: a text as it is, anything else as inside a list. -/
def written : Document → Except Fault String
  | .text value => .ok value
  | .guarded value => .ok value
  | .leaf value => .ok value.text
  | document => document.display

@[simp] theorem written_text (value : String) : (Document.text value).written = .ok value := rfl

@[simp] theorem written_guarded (value : String) :
    (Document.guarded value).written = .ok value := rfl

end Document

end AccessRules
