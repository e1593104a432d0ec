import AccessRules.Number.Numeric

/-!
# Documents

Rules, attributes and payloads are documents: trees of the scalars of JSON, lists, and objects
whose members keep their order. Two leaves go beyond JSON. A *guarded* text is a text that must
not be read as a number; a `Leaf` is a value that other formats have, such as a calendar date,
which rules carry along without operators for it.

* `Document`, `Key`, `Members` — the trees, the keys of objects, and their member lists;
* `Members.insert` — the last value of a key wins, in the place of the first;
* `Document.kind` — the word for the kind of a document.
-/

namespace AccessRules

/-- A value that rules carry along: its kind, its text, and its text inside a list. -/
structure Leaf where
  kind : String
  text : String
  display : String
  deriving DecidableEq, Repr, Inhabited

/-- A key of an object. Documents read from JSON have texts alone as keys. -/
inductive Key where
  | null
  | bool (value : Bool)
  | int (value : Int)
  | float (value : Float)
  | text (value : String)
  | leaf (value : Leaf)
  deriving DecidableEq, Repr, Inhabited

/-- A tree of scalars, lists and objects. -/
inductive Document where
  | null
  | bool (value : Bool)
  | int (value : Int)
  | float (value : Float)
  | text (value : String)
  /-- A text that must not be read as a number. -/
  | guarded (value : String)
  | array (items : List Document)
  | object (members : List (Key × Document))
  | leaf (value : Leaf)
  deriving Repr, Inhabited, BEq

/-- The members of an object, in order. -/
abbrev Members := List (Key × Document)

/-- A key as a document. -/
def Key.toDocument : Key → Document
  | .null => .null
  | .bool value => .bool value
  | .int value => .int value
  | .float value => .float value
  | .text value => .text value
  | .leaf value => .leaf value

/-- The number that a key is; truth values count as zero and one. -/
def Key.numeric? : Key → Option Numeric
  | .bool value => some (.int (if value then 1 else 0))
  | .int value => some (.int value)
  | .float value => some (.float value)
  | _ => none

/-- Are two keys the same key? Numbers are by their value, whatever they are written as. As a key,
not-a-number is the same as itself: it is written as `.nan`, which is one value however often it
stands there. (Behind the tag of floats, `nan` would be a new value each time.) -/
def Key.same (a b : Key) : Bool :=
  match a.numeric?, b.numeric? with
  | some x, some y => x.equal y || x.isNaN && y.isNaN
  | none, none => a == b
  | _, _ => false

namespace Members

/-- The value of a key. -/
def find? (key : Key) : Members → Option Document
  | [] => none
  | (k, value) :: rest => if k.same key then some value else find? key rest

/-- The value of a key that is a text. -/
def get? (members : Members) (name : String) : Option Document := members.find? (.text name)

/-- Is there a member of that name? -/
def has (members : Members) (name : String) : Bool := (members.get? name).isSome

/-- Set the value of a key: in its place when it is there, at the end otherwise. -/
def insert (key : Key) (value : Document) : Members → Members
  | [] => [(key, value)]
  | (k, old) :: rest =>
      if k.same key then (k, value) :: rest else (k, old) :: insert key value rest

/-- Set the value of a name. -/
def set (members : Members) (name : String) (value : Document) : Members :=
  members.insert (.text name) value

/-- Drop the member of a name. -/
def erase (members : Members) (name : String) : Members :=
  members.filter fun member => !member.1.same (.text name)

/-- Insert many members one after another, so that the last value of each key wins. -/
def ofList (pairs : List (Key × Document)) : Members :=
  pairs.foldl (fun members pair => members.insert pair.1 pair.2) []

/-- The keys as documents, in order. -/
def keys (members : Members) : List Document := members.map fun member => member.1.toDocument

end Members

namespace Document

/-- The empty object. -/
def empty : Document := .object []

/-- An object with texts as keys, in the order given. -/
def record (fields : List (String × Document)) : Document :=
  .object (fields.map fun field => (.text field.1, field.2))

/-- A list of texts. -/
def texts (items : List String) : Document := .array (items.map .text)

/-- The text of a document that is one, guarded or not. -/
def text? : Document → Option String
  | .text value => some value
  | .guarded value => some value
  | _ => none

/-- The word for the kind of a document. -/
def kind : Document → String
  | .null => "NoneType"
  | .bool _ => "bool"
  | .int _ => "int"
  | .float _ => "float"
  | .text _ => "str"
  | .guarded _ => "NonNumericString"
  | .array _ => "list"
  | .object _ => "dict"
  | .leaf value => value.kind

/-- Does the document count as true? Nothing, zero, and empty texts, lists and objects do not. -/
def isTrue : Document → Bool
  | .null => false
  | .bool value => value
  | .int value => value != 0
  | .float value => !(value == 0)
  | .text value => !value.isEmpty
  | .guarded value => !value.isEmpty
  | .array items => !items.isEmpty
  | .object members => !members.isEmpty
  | .leaf _ => true

/-- The document itself when it counts as true, and `other` when it does not. -/
def orElse (document other : Document) : Document := if document.isTrue then document else other

/-- The number that a document is; truth values count as zero and one. -/
def numeric? : Document → Option Numeric
  | .bool value => some (.int (if value then 1 else 0))
  | .int value => some (.int value)
  | .float value => some (.float value)
  | _ => none

/-- A number as a document. -/
def ofNumeric : Numeric → Document
  | .int value => .int value
  | .float value => .float value

/-- The key that a document is: lists and objects are none. -/
def toKey? : Document → Option Key
  | .null => some .null
  | .bool value => some (.bool value)
  | .int value => some (.int value)
  | .float value => some (.float value)
  | .text value => some (.text value)
  | .guarded value => some (.text value)
  | .leaf value => some (.leaf value)
  | .array _ => none
  | .object _ => none

@[simp] theorem toKey?_toDocument (key : Key) : key.toDocument.toKey? = some key := by
  cases key <;> rfl

/-- What a document yields when it is gone through: the items of a list, the characters of a
text, the keys of an object. Anything else cannot be gone through. That is so of every value that
JSON can write. Of the leaves, bytes and sets could be gone through; what is in them is not kept
here, so they are refused like the others. -/
def elements : Document → Except Fault (List Document)
  | .array items => .ok items
  | .text value => .ok (value.toList.map fun c => .text (String.singleton c))
  | .guarded value => .ok (value.toList.map fun c => .text (String.singleton c))
  | .object members => .ok (Members.keys members)
  | document => .error (.notIterable document.kind)

end Document

end AccessRules
