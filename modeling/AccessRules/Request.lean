import AccessRules.Document.Equality
import AccessRules.Document.Guard

/-!
# Requests

Who asks, and for what: a subject with roles and attributes, and a resource of a type with
attributes. Both are built from documents that were not checked before: an identifier may be any
document, roles are whatever the given document yields when gone through, and attributes are
members or a list of pairs.
-/

namespace AccessRules

/-- Who asks for access. -/
structure Subject where
  id : Document
  roles : List Document
  attributes : Members
  deriving Repr, Inhabited

/-- What access is asked for; rules are joined by `type`. -/
structure Resource where
  id : Document
  type : Document
  attributes : Members
  deriving Repr, Inhabited

/-- One pair of a list of pairs, at `index`: something that yields a key and a value. -/
def pairOf (index : Nat) (document : Document) : Except Fault (Key × Document) :=
  match document.elements with
  | .ok [key, value] => match key.toKey? with
    | some key => .ok (key, value)
    | none => .error .wrongKind
  | .ok other => .error (.wrongValue (.pairLength index other.length))
  | .error _ => .error .wrongKind

/-- The pairs of a list, numbered from `index` on. -/
def pairsOf (index : Nat) : List Document → Except Fault (List (Key × Document))
  | [] => .ok []
  | item :: rest => do
      let pair ← pairOf index item
      return pair :: (← pairsOf (index + 1) rest)

/-- The members that a document stands for: those of an object, or pairs one after another. -/
def membersOf : Document → Except Fault Members
  | .object members => .ok members
  | document => do return Members.ofList (← pairsOf 0 (← document.elements))

/-- The attributes given by a document, none when it counts as false. -/
def attributesOf (given : Option Document) : Except Fault Members :=
  membersOf ((given.getD .null).orElse .empty)

/-- Are all keys among the given names? -/
def onlyHas (names : List String) (members : Members) : Bool :=
  members.all fun member => names.any fun name => member.1.same (.text name)

/-- The subject that a document describes. -/
def Subject.ofDocument : Document → Except Fault Subject
  | .object members => do
      match Members.get? members "id" with
      | some id =>
          if !onlyHas ["id", "roles", "attributes"] members then .error .wrongKind
          else
            let roles ← (((Members.get? members "roles").getD .null).orElse (.array [])).elements
            let attributes ← attributesOf (Members.get? members "attributes")
            return ⟨id, roles, attributes⟩
      | none => .error .wrongKind
  | _ => .error .wrongKind

/-- The resource that a document describes. -/
def Resource.ofDocument : Document → Except Fault Resource
  | .object members => do
      match Members.get? members "id", Members.get? members "type" with
      | some id, some type =>
          if !onlyHas ["id", "type", "attributes"] members then .error .wrongKind
          else return ⟨id, type, ← attributesOf (Members.get? members "attributes")⟩
      | _, _ => .error .wrongKind
  | _ => .error .wrongKind

/-- Does the subject hold one of the roles? -/
def Subject.hasAnyRole (subject : Subject) (roles : List Document) : Bool :=
  roles.any fun role => role.isAmong subject.roles

/-- The data that conditions are evaluated over. -/
def context (subject : Subject) (resource : Resource) : Document :=
  .record
    [("subject", .record
      [("id", subject.id), ("roles", .array subject.roles),
       ("attributes", .object subject.attributes)]),
     ("resource", .record
      [("id", resource.id), ("type", resource.type),
       ("attributes", .object resource.attributes)])]

end AccessRules
