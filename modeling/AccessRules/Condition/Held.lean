import AccessRules.Condition.Arithmetic
import AccessRules.Document.Guard

/-!
# Values in a program

The program that asks for access may hold an attribute as a tuple, a list of fixed length. A
document knows lists alone, and guarding makes a list of either.

* `Held`, `Held.document` — the values, and the documents that they are when tuples are read as
  lists; `Held.ofDocument` is the way back;
* `Held.guarding` — the document of a value, with every odd numeral in it guarded.
-/

namespace AccessRules

/-- A value as a program holds it. -/
inductive Held where
  | null
  | bool (value : Bool)
  | int (value : Int)
  | float (value : Float)
  | text (value : String)
  | guarded (value : String)
  | list (items : List Held)
  | tuple (items : List Held)
  | object (members : List (Key × Held))
  | leaf (value : Leaf)
  deriving Repr, Inhabited

namespace Held

mutual

/-- The value as a document. -/
def document : Held → Document
  | .null => .null
  | .bool value => .bool value
  | .int value => .int value
  | .float value => .float value
  | .text value => .text value
  | .guarded value => .guarded value
  | .list items => .array (documents items)
  | .tuple items => .array (documents items)
  | .object members => .object (memberDocuments members)
  | .leaf value => .leaf value

/-- The items of a list as documents. -/
def documents : List Held → List Document
  | [] => []
  | item :: rest => document item :: documents rest

/-- The members of an object with their values as documents. -/
def memberDocuments : List (Key × Held) → List (Key × Document)
  | [] => []
  | (key, value) :: rest => (key, document value) :: memberDocuments rest

end

mutual

/-- A document as a value without tuples. -/
def ofDocument : Document → Held
  | .null => .null
  | .bool value => .bool value
  | .int value => .int value
  | .float value => .float value
  | .text value => .text value
  | .guarded value => .guarded value
  | .array items => .list (ofDocuments items)
  | .object members => .object (ofMemberDocuments members)
  | .leaf value => .leaf value

/-- Documents as values without tuples. -/
def ofDocuments : List Document → List Held
  | [] => []
  | item :: rest => ofDocument item :: ofDocuments rest

/-- The members of an object with their documents as values without tuples. -/
def ofMemberDocuments : List (Key × Document) → List (Key × Held)
  | [] => []
  | (key, value) :: rest => (key, ofDocument value) :: ofMemberDocuments rest

end

/-- A text, which may be guarded already, with a guard if it is read as a number here but not by
every client. A guarded text refuses to be read. -/
def guardText (value : String) (text : Document) : Document :=
  if !Number.isPlainNumeral value.toList && (Condition.textToFloat text).isOk then .guarded value
  else text

mutual

/-- The document of the value with every odd numeral in it guarded. Keys stay as they are. -/
def guarding : Held → Document
  | .text value => guardText value (.text value)
  | .guarded value => guardText value (.guarded value)
  | .object members => .object (guardingMembers members)
  | .list items => .array (guardingItems items)
  | .tuple items => .array (guardingItems items)
  | .null => .null
  | .bool value => .bool value
  | .int value => .int value
  | .float value => .float value
  | .leaf value => .leaf value

/-- The items of a list, guarded. -/
def guardingItems : List Held → List Document
  | [] => []
  | item :: rest => guarding item :: guardingItems rest

/-- The members of an object with their values guarded. -/
def guardingMembers : List (Key × Held) → List (Key × Document)
  | [] => []
  | (key, value) :: rest => (key, guarding value) :: guardingMembers rest

end

end Held

end AccessRules
