import AccessRules.Document.Basic

/-!
# Equality of documents

Two documents are equal when they are the same tree up to these identifications: numbers and
truth values are equal by their exact value, a guarded text equals the plain one, and the order
of an object's members does not matter. Not-a-number equals nothing, itself included.
-/

namespace AccessRules

namespace Document

mutual

/-- Are the documents equal? -/
def equal : Document → Document → Bool
  | .null, .null => true
  | .bool a, .bool b => a == b
  | .bool a, .int b => (if a then 1 else 0) == b
  | .bool a, .float b => (Numeric.int (if a then 1 else 0)).equal (.float b)
  | .int a, .bool b => a == (if b then 1 else 0)
  | .int a, .int b => a == b
  | .int a, .float b => (Numeric.int a).equal (.float b)
  | .float a, .bool b => (Numeric.float a).equal (.int (if b then 1 else 0))
  | .float a, .int b => (Numeric.float a).equal (.int b)
  | .float a, .float b => a == b
  | .text a, .text b => a == b
  | .text a, .guarded b => a == b
  | .guarded a, .text b => a == b
  | .guarded a, .guarded b => a == b
  | .array as, .array bs => equalItems as bs
  | .object as, .object bs => as.length == bs.length && equalMembers as bs
  | .leaf a, .leaf b => a == b
  | _, _ => false

/-- Are the lists equal, item by item? -/
def equalItems : List Document → List Document → Bool
  | [], [] => true
  | a :: as, b :: bs => equal a b && equalItems as bs
  | _, _ => false

/-- Does every member have an equal one of the same key among the others? -/
def equalMembers : List (Key × Document) → Members → Bool
  | [], _ => true
  | (key, a) :: as, bs =>
      (match bs.find? key with
        | some b => equal a b
        | none => false) && equalMembers as bs

end

/-- A text equals the documents that have it as their text, and no others. -/
theorem text_equal_iff {name : String} {document : Document} :
    (Document.text name).equal document = true ↔ document.text? = some name := by
  cases document with
  | text other => simpa [equal, text?] using eq_comm
  | guarded other => simpa [equal, text?] using eq_comm
  | _ => simp [equal, text?]

theorem equal_text_iff {name : String} {document : Document} :
    document.equal (.text name) = true ↔ document.text? = some name := by
  cases document <;> simp [equal, text?]

/-- Is an item equal to the document? -/
def isAmong (document : Document) (items : List Document) : Bool :=
  items.any (·.equal document)

end Document

end AccessRules
