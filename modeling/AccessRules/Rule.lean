import AccessRules.Document.Equality
import AccessRules.Failure
import AccessRules.Request

/-!
# Rules

A rule grants an action on the resources of a type. It may ask for one of some roles, and for a
condition to hold. Documents describe rules by the names `resource`, `action`, `allowedRoles` and
`attributeCondition`; the last two have another name each, which counts when the first is absent.

* `Rule.ofDocument` — the rule that a document describes, or every issue with it;
* `Rule.toDocument` — the document that describes a rule, without what is absent.
-/

namespace AccessRules

/-- A rule. -/
structure Rule where
  resource : String
  action : String
  /-- The roles one of which is needed; `none` when none is needed. -/
  allowedRoles : Option (List String)
  /-- The condition that must hold; `none` when there is none. -/
  condition : Option Document
  /-- To ask for nothing is to have no condition. -/
  substantial : condition ≠ some .null
  deriving Repr

instance : Inhabited Rule := ⟨"", "", none, none, nofun⟩

namespace Rule

/-- The name of the model in issues. -/
def modelName : String := "PermissionRule"

/-- Is it a rule for the action on resources of the type? -/
def isFor (rule : Rule) (type action : Document) : Bool :=
  (Document.text rule.resource).equal type && (Document.text rule.action).equal action

theorem isFor_iff {rule : Rule} {type action : Document} :
    rule.isFor type action = true ↔
      type.text? = some rule.resource ∧ action.text? = some rule.action := by
  rw [isFor, Bool.and_eq_true, Document.text_equal_iff, Document.text_equal_iff]

/-- Does the subject hold a role that the rule asks for, if it asks for any? -/
def admits (rule : Rule) (subject : Subject) : Bool :=
  match rule.allowedRoles with
  | none => true
  | some roles => subject.hasAnyRole (roles.map .text)

theorem admits_iff {rule : Rule} {subject : Subject} :
    rule.admits subject = true ↔
      ∀ roles ∈ rule.allowedRoles, ∃ role ∈ roles, ∃ held ∈ subject.roles,
        held.text? = some role := by
  cases hroles : rule.allowedRoles with
  | none => simp [admits, hroles]
  | some roles =>
      simp [admits, hroles, Subject.hasAnyRole, Document.isAmong, Document.equal_text_iff]

/-- Are the rules equal, their conditions being equal documents? -/
def equal (a b : Rule) : Bool :=
  a.resource == b.resource && a.action == b.action && a.allowedRoles == b.allowedRoles &&
    match a.condition, b.condition with
    | none, none => true
    | some x, some y => x.equal y
    | _, _ => false

/-- A member that has to be a text. -/
def readText (members : Members) (name : String) : Checked String :=
  match members.get? name with
  | none => .error [⟨.missing, [.name name], .object members⟩]
  | some document => match document.text? with
    | some text => .ok text
    | none => .error [⟨.notText, [.name name], document⟩]

/-- The names of roles in a list, numbered from `index` on; every item has to be a text. -/
def readRoleNames (name : String) (index : Nat) : List Document → Checked (List String)
  | [] => .ok []
  | item :: rest => match item.text?, readRoleNames name (index + 1) rest with
    | some text, .ok texts => .ok (text :: texts)
    | some _, .error issues => .error issues
    | none, others => .error (⟨.notText, [.name name, .index index], item⟩ :: others.issues)

/-- The first of two names that a member goes by, and its value. -/
def firstNamed (members : Members) (name other : String) : Option (String × Document) :=
  match members.get? name with
  | some document => some (name, document)
  | none => (members.get? other).map fun document => (other, document)

/-- The roles that are asked for. A document that cannot be gone through is a fault. -/
def readRoles (members : Members) : Except Fault (Checked (Option (List String))) :=
  match firstNamed members "allowedRoles" "allowed_roles" with
  | none => .ok (.ok none)
  | some (_, .null) => .ok (.ok none)
  | some (name, document) => match document.text? with
    | some _ => .ok (.error [⟨.textForRoles, [.name name], document⟩])
    | none => do return (readRoleNames name 0 (← document.elements)).map some

/-- The condition that is asked for. -/
def readCondition (members : Members) : Option Document :=
  match firstNamed members "attributeCondition" "attribute_condition" with
  | none => none
  | some (_, .null) => none
  | some (_, document) => some document

theorem readCondition_ne_null (members : Members) : readCondition members ≠ some .null := by
  unfold readCondition
  split
  · nofun
  · nofun
  · next something _ => simpa using something

/-- The rule that the members of an object describe. -/
def ofMembers (members : Members) : Except Failure Rule := do
  let roles ← Failure.lift (readRoles members)
  match readText members "resource", readText members "action", roles with
  | .ok resource, .ok action, .ok allowed =>
      .ok ⟨resource, action, allowed, readCondition members, readCondition_ne_null members⟩
  | resource, action, roles =>
      .error (.invalid modelName (resource.issues ++ action.issues ++ roles.issues))

/-- The rule that a document describes. -/
def ofDocument : Document → Except Failure Rule
  | .object members => ofMembers members
  | document => .error (.invalid modelName [⟨.notModel modelName, [], document⟩])

/-- The document that describes a rule: no member for what is absent. -/
def toDocument (rule : Rule) : Document :=
  .record
    ([("resource", .text rule.resource), ("action", .text rule.action)] ++
      (rule.allowedRoles.map fun roles => ("allowedRoles", Document.texts roles)).toList ++
      (rule.condition.map fun condition => ("attributeCondition", condition)).toList)

end Rule

/-- What a rule is made from: a rule as it is, or a document that describes one. -/
inductive RuleInput where
  | rule (rule : Rule)
  | document (document : Document)
  deriving Repr

/-- The rule that is made from an input. -/
def RuleInput.toRule : RuleInput → Except Failure Rule
  | .rule made => .ok made
  | .document described => Rule.ofDocument described

end AccessRules
