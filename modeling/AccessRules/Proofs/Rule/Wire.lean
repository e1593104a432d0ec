import AccessRules.Document.Members
import AccessRules.Rule

/-!
# Descriptions of rules and their normal form

Many documents describe a rule: the optional parts go by two names each, nothing counts as absent,
roles may be the keys of an object, texts may be guarded, and other members do not matter. The
document that a rule is described by is one of them, the normal form of all documents that describe
the rule.

* `normalForm` reads the normal form off a description, not off the rule that it describes;
* `ofDocument_toDocument`: a rule is read back from its description;
* **`described_in_normal_form`**: the description of a rule that was read is the normal form of what
  it was read from, the same rule is read from it, and rules are equal when their normal forms are.
-/

namespace AccessRules.Rule

/-! ### Normal forms -/

/-- The value of an optional part: of the member of its first name, even when that is nothing, or
else of the member of its other name. Nothing is no value. -/
def effective? (members : Members) (name other : String) : Option Document :=
  match if members.has name then members.get? name else members.get? other with
  | some .null => none
  | value => value

/-- A text without its guard; any other document as it is. -/
def unguarded (document : Document) : Document :=
  match document.text? with
  | some text => .text text
  | none => document

/-- What stands for roles in a document: the items of a list, or the keys of an object. -/
def listed : Document → List Document
  | .array items => items
  | .object members => Members.keys members
  | _ => []

/-- The normal form of a description: the resource and the action, the roles as a list when there
are any asked for, and the condition as it is when there is one. -/
def normalForm (members : Members) : Document :=
  .record
    ([("resource", unguarded ((members.get? "resource").getD .null)),
      ("action", unguarded ((members.get? "action").getD .null))] ++
      ((effective? members "allowedRoles" "allowed_roles").map fun roles =>
        ("allowedRoles", Document.array ((listed roles).map unguarded))).toList ++
      ((effective? members "attributeCondition" "attribute_condition").map fun condition =>
        ("attributeCondition", condition)).toList)

/-! ### What is read -/

section

variable {members : Members} {rule : Rule}

theorem unguarded_of_text? {document : Document} {text : String}
    (isText : document.text? = some text) : unguarded document = .text text := by
  rw [unguarded, isText]

theorem readText_ok {name text : String} (read : readText members name = .ok text) :
    unguarded ((members.get? name).getD .null) = .text text := by
  unfold readText at read
  split at read
  · cases read
  next document found =>
    rw [found]
    split at read
    next isText =>
      cases read
      exact unguarded_of_text? isText
    next => cases read

theorem readRoleNames_ok {name : String} {index : Nat} {items : List Document}
    {roles : List String} (read : readRoleNames name index items = .ok roles) :
    items.map unguarded = roles.map .text := by
  induction items generalizing index roles with
  | nil =>
      cases read
      rfl
  | cons item rest ih =>
      unfold readRoleNames at read
      split at read
      next text texts isText others =>
        cases read
        rw [List.map_cons, List.map_cons, unguarded_of_text? isText, ih others]
      next => cases read
      next => cases read

/-- The value that counts is that of the first of the two names. -/
theorem effective?_eq (members : Members) (name other : String) :
    effective? members name other =
      match firstNamed members name other with
      | some (_, .null) => none
      | some (_, value) => some value
      | none => none := by
  unfold effective? firstNamed
  rw [Members.has_eq]
  cases members.get? name with
  | some value => cases value <;> rfl
  | none =>
      cases members.get? other with
      | none => rfl
      | some value => cases value <;> rfl

theorem effective?_of_ne_null {name other found : String} {value : Document}
    (named : firstNamed members name other = some (found, value)) (something : value ≠ .null) :
    effective? members name other = some value := by
  rw [effective?_eq, named]
  cases value with
  | null => exact absurd rfl something
  | _ => rfl

theorem readCondition_eq (members : Members) :
    readCondition members = effective? members "attributeCondition" "attribute_condition" := by
  rw [effective?_eq, readCondition]
  rcases firstNamed members "attributeCondition" "attribute_condition" with _ | ⟨name, value⟩
  · rfl
  · cases value <;> rfl

theorem listed_of_elements {given : Document} {items : List Document}
    (noText : given.text? = none) (gone : given.elements = .ok items) : listed given = items := by
  cases given with
  | array others =>
      cases gone
      rfl
  | object others =>
      cases gone
      rfl
  | text value => cases noText
  | guarded value => cases noText
  | _ => cases gone

theorem readRoles_ok {roles : Option (List String)}
    (read : readRoles members = .ok (.ok roles)) :
    (effective? members "allowedRoles" "allowed_roles").map
      (fun given => Document.array ((listed given).map unguarded)) = roles.map .texts := by
  unfold readRoles at read
  split at read
  next absent =>
    cases read
    rw [effective?_eq, absent]
    rfl
  next name nothing =>
    cases read
    rw [effective?_eq, nothing]
    rfl
  next name given something named =>
    rw [effective?_of_ne_null named something]
    split at read
    · cases read
    next noText =>
      cases gone : given.elements with
      | error fault =>
          rw [gone] at read
          cases read
      | ok items =>
          rw [gone] at read
          cases texts : readRoleNames name 0 items with
          | error issues =>
              simp [texts, bind, Except.bind, pure, Except.pure, Except.map] at read
          | ok found =>
              simp only [texts, bind, Except.bind, pure, Except.pure, Except.map,
                Except.ok.injEq] at read
              rw [← read, Option.map_some, Option.map_some, listed_of_elements noText gone,
                readRoleNames_ok texts, Document.texts]

/-- A rule is read from members when all of its parts are read from them. -/
theorem ofMembers_ok_iff :
    ofMembers members = .ok rule ↔
      readText members "resource" = .ok rule.resource ∧
        readText members "action" = .ok rule.action ∧
        readRoles members = .ok (.ok rule.allowedRoles) ∧
        readCondition members = rule.condition := by
  unfold ofMembers
  cases roles : readRoles members with
  | error fault => simp [Failure.lift, bind, Except.bind]
  | ok checked =>
      simp only [Failure.lift, bind, Except.bind]
      split
      next resource action allowed resourceRead actionRead =>
        obtain ⟨resource', action', allowed', condition', substantial⟩ := rule
        simp [resourceRead, actionRead]
      next unread =>
        constructor
        · rintro ⟨⟩
        · rintro ⟨resource, action, allowed, -⟩
          cases allowed
          exact absurd rfl (unread _ _ _ resource action)

/-- The description of a rule that was read is the normal form of what it was read from. -/
theorem toDocument_eq_normalForm (accepted : ofMembers members = .ok rule) :
    rule.toDocument = normalForm members := by
  obtain ⟨resource, action, roles, condition⟩ := ofMembers_ok_iff.1 accepted
  have asked : (effective? members "allowedRoles" "allowed_roles").map
      (fun given => ("allowedRoles", Document.array ((listed given).map unguarded))) =
      rule.allowedRoles.map fun roles => ("allowedRoles", Document.texts roles) := by
    have named := congrArg (Option.map fun given => ("allowedRoles", given)) (readRoles_ok roles)
    rwa [Option.map_map, Option.map_map] at named
  rw [toDocument, normalForm, readText_ok resource, readText_ok action, ← readCondition_eq,
    condition, asked]

end

/-! ### Reading back -/

theorem readRoleNames_texts (name : String) (index : Nat) (roles : List String) :
    readRoleNames name index (roles.map .text) = .ok roles := by
  induction roles generalizing index with
  | nil => rfl
  | cons role rest ih =>
      rw [List.map_cons, readRoleNames, ih]
      rfl

theorem readRoles_of_texts {members : Members} {name : String} {roles : List String}
    (named : firstNamed members "allowedRoles" "allowed_roles" = some (name, .texts roles)) :
    readRoles members = .ok (.ok (some roles)) := by
  have read := readRoleNames_texts name 0 roles
  simp only [readRoles, named, Document.texts, Document.text?, Document.elements]
  show Except.ok ((readRoleNames name 0 (roles.map .text)).map some) = _
  rw [read]
  rfl

/-- A rule is read back from its description. -/
theorem ofDocument_toDocument (rule : Rule) : ofDocument rule.toDocument = .ok rule := by
  obtain ⟨resource, action, roles, condition, substantial⟩ := rule
  refine ofMembers_ok_iff.2 ⟨?_, ?_, ?_, ?_⟩
  · rfl
  · rfl
  · cases roles with
    | none => cases condition <;> rfl
    | some roles =>
        apply readRoles_of_texts
        cases condition <;> rfl
  · cases condition with
    | none => cases roles <;> rfl
    | some condition =>
        have something : condition ≠ .null := fun nothing => substantial (congrArg some nothing)
        refine (readCondition_eq _).trans (effective?_of_ne_null
          (?_ : _ = some ("attributeCondition", _)) something)
        cases roles <;> rfl

/-! ### Equality -/

theorem texts_equal (xs ys : List String) :
    (Document.texts xs).equal (.texts ys) = (xs == ys) := by
  rw [Document.texts, Document.texts, Document.equal]
  induction xs generalizing ys with
  | nil => cases ys <;> rfl
  | cons x xs ih =>
      cases ys with
      | nil => rfl
      | cons y ys =>
          rw [List.map_cons, List.map_cons, Document.equalItems, ih, Document.equal,
            List.cons_beq_cons]

/-- Rules are equal exactly when the documents that describe them are. -/
theorem toDocument_equal (a b : Rule) : a.toDocument.equal b.toDocument = a.equal b := by
  obtain ⟨resource, action, roles, condition, _⟩ := a
  obtain ⟨resource', action', roles', condition', _⟩ := b
  cases roles <;> cases roles' <;> cases condition <;> cases condition' <;>
    simp [toDocument, equal, Document.record, Document.equal, Document.equalMembers,
      Members.find?, Key.same_text_iff, texts_equal, Bool.and_assoc]

/-- **Normal forms.** When a rule is read from a description, the document that describes the rule
is the normal form of the description. The same rule is read from it again, so taking normal forms
twice is taking them once. Of two descriptions that are read, the normal forms are the same, or
equal, exactly when the rules are. -/
theorem described_in_normal_form {members : Members} {rule : Rule}
    (accepted : RuleInput.toRule (.document (.object members)) = .ok rule) :
    rule.toDocument = normalForm members ∧
      RuleInput.toRule (.document rule.toDocument) = .ok rule ∧
      (RuleInput.toRule (.document (normalForm members))).map toDocument =
        .ok (normalForm members) ∧
      ∀ {others : Members} {other : Rule},
        RuleInput.toRule (.document (.object others)) = .ok other →
          (normalForm members = normalForm others ↔ rule = other) ∧
            (normalForm members).equal (normalForm others) = rule.equal other := by
  have described := toDocument_eq_normalForm accepted
  have readBack := ofDocument_toDocument rule
  refine ⟨described, readBack, ?_, ?_⟩
  · rw [← described]
    show (ofDocument rule.toDocument).map toDocument = _
    rw [readBack]
    rfl
  intro others other otherAccepted
  have otherDescribed := toDocument_eq_normalForm otherAccepted
  have otherReadBack := ofDocument_toDocument other
  rw [← described, ← otherDescribed]
  refine ⟨⟨fun same => ?_, congrArg toDocument⟩, toDocument_equal rule other⟩
  rw [same, otherReadBack] at readBack
  exact (Except.ok.inj readBack).symm

/-- Nothing under the first name for roles hides the roles under the other one, so anyone is
admitted; the empty object asks for one of no roles, so nobody is. -/
theorem described_in_normal_form_without_hidden_roles :
    let condition : Document :=
      .object [(.text "==", .array [.null, .object [(.text "var", .null)]])]
    let members : Members :=
      [(.text "allowed_roles", .texts ["admin"]), (.text "allowedRoles", .null),
        (.text "owner", .text "u1"), (.text "resource", .guarded "1_000"),
        (.text "action", .text "read"), (.text "attribute_condition", condition)]
    let others : Members :=
      [(.text "resource", .text "1_000"), (.text "action", .text "read"),
        (.text "allowedRoles", .object []), (.text "attributeCondition", condition)]
    let rule : Rule := ⟨"1_000", "read", none, some condition, by simp [condition]⟩
    RuleInput.toRule (.document (.object members)) = .ok rule ∧
      RuleInput.toRule (.document (.object others)) = .ok { rule with allowedRoles := some [] } ∧
      rule.toDocument = .record [("resource", .text "1_000"), ("action", .text "read"),
        ("attributeCondition", condition)] ∧
      RuleInput.toRule (.document rule.toDocument) = .ok rule ∧
      normalForm members ≠ normalForm others := by
  intro condition members others rule
  have accepted : RuleInput.toRule (.document (.object members)) = .ok rule := rfl
  have otherAccepted : RuleInput.toRule (.document (.object others)) =
      .ok { rule with allowedRoles := some [] } := rfl
  obtain ⟨described, readBack, -, compared⟩ := described_in_normal_form accepted
  refine ⟨accepted, otherAccepted, described, readBack, fun same => ?_⟩
  have equal := (compared otherAccepted).1.1 same
  cases congrArg Rule.allowedRoles equal

end AccessRules.Rule
