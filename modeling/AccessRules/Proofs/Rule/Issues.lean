import AccessRules.Proofs.Loading.Refusal
import AccessRules.Proofs.Rule.Wire

/-!
# What describes a rule, and what is wrong with what does not

A document describes a rule when its members do: two texts, roles in one of several forms, and a
condition that may be anything. `Describes` says so part by part, and `Wrong` says what can be wrong
with a document, one constructor for each kind of fault. Neither mentions how rules are read.

**`toRule_settles`** says that reading agrees with both: a rule is read exactly from what describes
it, and anything else is refused with every single thing that is wrong with it, each listed once, in
the order of the fields and of the items in a list of roles (`Precedes`). Left out is one kind of
input: roles that cannot be gone through at all, or are values beyond those of JSON
(`RolesIndivisible`).
-/

namespace AccessRules.Rule

/-! ### Descriptions -/

/-- The member that gives the roles, by the name that counts: the first name when there is a member
of that name, even when it is nothing, and the other one otherwise. -/
inductive GivesRoles (members : Members) : String → Document → Prop where
  | first {given : Document} (there : members.get? "allowedRoles" = some given) :
      GivesRoles members "allowedRoles" given
  | other {given : Document} (absent : members.get? "allowedRoles" = none)
      (there : members.get? "allowed_roles" = some given) :
      GivesRoles members "allowed_roles" given

/-- The members ask for one of some roles, or for none. -/
inductive AsksFor (members : Members) : Option (List String) → Prop where
  | absent (nowhere : ∀ name given, ¬ GivesRoles members name given) : AsksFor members none
  | nothing {name : String} (gives : GivesRoles members name .null) : AsksFor members none
  | items {name : String} {items : List Document} {roles : List String}
      (gives : GivesRoles members name (.array items))
      (texts : items.map Document.text? = roles.map some) : AsksFor members (some roles)
  | keys {name : String} {inner : Members} {roles : List String}
      (gives : GivesRoles members name (.object inner))
      (names : inner.map Prod.fst = roles.map Key.text) : AsksFor members (some roles)

/-- The document describes the rule. -/
inductive Describes : Document → Rule → Prop where
  | object {members : Members} {rule : Rule} {resource action : Document}
      (typed : members.get? "resource" = some resource)
      (typeText : resource.text? = some rule.resource)
      (acted : members.get? "action" = some action) (actionText : action.text? = some rule.action)
      (roles : AsksFor members rule.allowedRoles)
      (condition : effective? members "attributeCondition" "attribute_condition" =
        rule.condition) :
      Describes (.object members) rule

/-! ### Faults -/

/-- Something is wrong with a member that has to be a text. -/
inductive WrongText (members : Members) (name : String) : Issue → Prop where
  | missing (absent : members.get? name = none) :
      WrongText members name ⟨.missing, [.name name], .object members⟩
  | noText {given : Document} (there : members.get? name = some given)
      (other : given.text? = none) :
      WrongText members name ⟨.notText, [.name name], given⟩

/-- Something is wrong with the roles: they are a bare text, or one of them is no text. -/
inductive WrongRoles (members : Members) : Issue → Prop where
  | bareText {name text : String} {given : Document} (gives : GivesRoles members name given)
      (isText : given.text? = some text) :
      WrongRoles members ⟨.textForRoles, [.name name], given⟩
  | role {name : String} {given item : Document} {index : Nat}
      (gives : GivesRoles members name given) (there : (listed given)[index]? = some item)
      (other : item.text? = none) :
      WrongRoles members ⟨.notText, [.name name, .index index], item⟩

/-- Something is wrong with a document that should describe a rule. -/
inductive Wrong : Document → Issue → Prop where
  | noObject {document : Document} (other : ∀ members, document ≠ .object members) :
      Wrong document ⟨.notModel modelName, [], document⟩
  | resource {members : Members} {issue : Issue} (wrong : WrongText members "resource" issue) :
      Wrong (.object members) issue
  | action {members : Members} {issue : Issue} (wrong : WrongText members "action" issue) :
      Wrong (.object members) issue
  | roles {members : Members} {issue : Issue} (wrong : WrongRoles members issue) :
      Wrong (.object members) issue

/-- The names of members in the order in which the parts of a rule are declared. -/
def declared : List String := ["resource", "action", "allowedRoles", "allowed_roles"]

/-- One place stands before another: in a member that is declared earlier, or at an earlier item of
the same member. -/
inductive Precedes : List Place → List Place → Prop where
  | member {one other : String} {inner inner' : List Place}
      (earlier : declared.idxOf one < declared.idxOf other) :
      Precedes (.name one :: inner) (.name other :: inner')
  | item {name : String} {first second : Nat} (earlier : first < second) :
      Precedes [.name name, .index first] [.name name, .index second]

/-- The issues are in the order of their places, no two of them at the same one. -/
def InOrder (issues : List Issue) : Prop :=
  issues.Pairwise fun one other => Precedes one.place other.place

/-! ### Texts -/

section

variable {members : Members} {name : String}

theorem readText_ok_iff {text : String} :
    readText members name = .ok text ↔
      ∃ given, members.get? name = some given ∧ given.text? = some text := by
  unfold readText
  cases members.get? name with
  | none => simp
  | some given => cases isText : given.text? <;> simp [isText]

/-- A text is read, or there is the one issue that is wrong with it. -/
theorem readText_cases (members : Members) (name : String) :
    (∃ text, readText members name = .ok text ∧ ∀ issue, ¬ WrongText members name issue) ∨
    ∃ issue, readText members name = .error [issue] ∧
      ∀ other, WrongText members name other ↔ other = issue := by
  unfold readText
  cases found : members.get? name with
  | none =>
      refine Or.inr ⟨_, rfl, fun other => ⟨?_, ?_⟩⟩
      · rintro (absent | ⟨there, -⟩)
        · rfl
        · rw [found] at there
          cases there
      · rintro rfl
        exact .missing found
  | some given =>
      cases isText : given.text? with
      | some text =>
          refine Or.inl ⟨text, by simp only [isText], ?_⟩
          rintro issue (absent | ⟨there, other⟩)
          · rw [found] at absent
            cases absent
          · obtain rfl := Option.some.inj (found.symm.trans there)
            rw [isText] at other
            cases other
      | none =>
          refine Or.inr ⟨⟨.notText, [.name name], given⟩, by simp only [isText],
            fun other => ⟨?_, ?_⟩⟩
          · rintro (absent | ⟨there, -⟩)
            · rw [found] at absent
              cases absent
            · obtain rfl := Option.some.inj (found.symm.trans there)
              rfl
          · rintro rfl
            exact .noText found isText

end

/-! ### Roles -/

section

variable {members : Members} {name : String} {items : List Document}

theorem firstNamed_eq_some_iff {given : Document} :
    firstNamed members "allowedRoles" "allowed_roles" = some (name, given) ↔
      GivesRoles members name given := by
  unfold firstNamed
  constructor
  · intro named
    split at named
    next document there =>
      cases named
      exact .first there
    next absent =>
      obtain ⟨document, there, same⟩ := Option.map_eq_some_iff.1 named
      cases same
      exact .other absent there
  · rintro (there | ⟨absent, there⟩)
    · rw [there]
    · rw [absent, there]
      rfl

theorem firstNamed_eq_none_iff :
    firstNamed members "allowedRoles" "allowed_roles" = none ↔
      ∀ name given, ¬ GivesRoles members name given := by
  constructor
  · intro nowhere name given gives
    rw [firstNamed_eq_some_iff.2 gives] at nowhere
    cases nowhere
  · intro nowhere
    cases named : firstNamed members "allowedRoles" "allowed_roles" with
    | none => rfl
    | some entry => exact absurd (firstNamed_eq_some_iff.1 named) (nowhere entry.1 entry.2)

/-- There is one member that gives the roles. -/
theorem GivesRoles.inj {other : String} {given given' : Document}
    (gives : GivesRoles members name given) (gives' : GivesRoles members other given') :
    name = other ∧ given = given' := by
  have named := firstNamed_eq_some_iff.2 gives
  rw [firstNamed_eq_some_iff.2 gives'] at named
  cases named
  exact ⟨rfl, rfl⟩

theorem readRoleNames_ok_iff {index : Nat} {roles : List String} :
    readRoleNames name index items = .ok roles ↔
      items.map Document.text? = roles.map some := by
  induction items generalizing index roles with
  | nil => cases roles <;> simp [readRoleNames]
  | cons item rest ih =>
      unfold readRoleNames
      cases isText : item.text? with
      | none => cases roles <;> simp [isText]
      | some text =>
          cases others : readRoleNames name (index + 1) rest with
          | ok texts =>
              have read := ih.1 others
              cases roles with
              | nil => simp
              | cons role roles =>
                  simp only [Except.ok.injEq, List.cons.injEq, List.map_cons, isText,
                    Option.some.injEq, read]
                  rw [List.map_inj_right fun _ _ => Option.some.inj]
          | error issues =>
              cases roles with
              | nil => simp
              | cons role roles =>
                  have unread : rest.map Document.text? ≠ roles.map some := fun same => by
                    rw [ih.2 same] at others
                    cases others
                  simp [unread]

/-- The issue with an item at a place among the roles, if it is no text. -/
def itemIssue? (name : String) (entry : Document × Nat) : Option Issue :=
  match entry.1.text? with
  | some _ => none
  | none => some ⟨.notText, [.name name, .index entry.2], entry.1⟩

theorem itemIssue?_eq_some_iff {entry : Document × Nat} {issue : Issue} :
    itemIssue? name entry = some issue ↔
      entry.1.text? = none ∧ issue = ⟨.notText, [.name name, .index entry.2], entry.1⟩ := by
  unfold itemIssue?
  cases entry.1.text? with
  | some text => simp
  | none => simp [eq_comm]

theorem issues_readRoleNames (name : String) (index : Nat) (items : List Document) :
    (readRoleNames name index items).issues =
      (items.zipIdx index).filterMap (itemIssue? name) := by
  induction items generalizing index with
  | nil => rfl
  | cons item rest ih =>
      rw [List.zipIdx_cons, List.filterMap_cons, ← ih, readRoleNames, itemIssue?]
      cases item.text? with
      | none => rfl
      | some text => cases readRoleNames name (index + 1) rest <;> rfl

/-- Roles are not refused without an issue. -/
theorem readRoleNames_ne_error_nil {index : Nat} :
    readRoleNames name index items ≠ .error [] := by
  induction items generalizing index with
  | nil => simp [readRoleNames]
  | cons item rest ih =>
      unfold readRoleNames
      cases item.text? with
      | none => simp
      | some text =>
          cases others : readRoleNames name (index + 1) rest with
          | ok texts => simp
          | error issues =>
              rintro same
              cases same
              exact ih others

/-- The issues with items are those of the items that are no texts, each at its place. -/
theorem mem_issues_readRoleNames_iff {issue : Issue} :
    issue ∈ (readRoleNames name 0 items).issues ↔
      ∃ index item, items[index]? = some item ∧ item.text? = none ∧
        issue = ⟨.notText, [.name name, .index index], item⟩ := by
  rw [issues_readRoleNames, List.mem_filterMap]
  constructor
  · rintro ⟨⟨item, index⟩, among, wrong⟩
    exact ⟨index, item, List.mem_zipIdx_iff_getElem?.1 among, itemIssue?_eq_some_iff.1 wrong⟩
  · rintro ⟨index, item, there, wrong⟩
    exact ⟨(item, index), List.mem_zipIdx_iff_getElem?.2 there, itemIssue?_eq_some_iff.2 wrong⟩

theorem inOrder_issues_readRoleNames (name : String) (items : List Document) :
    InOrder (readRoleNames name 0 items).issues := by
  have places : (items.zipIdx.map Prod.snd).Pairwise (· < ·) := by
    rw [List.zipIdx_map_snd]
    exact List.pairwise_lt_range'
  -- The issues stand at the places of their items, and these are counted up.
  rw [InOrder, issues_readRoleNames, List.pairwise_filterMap]
  refine (List.pairwise_map.1 places).imp fun less one first other second => ?_
  obtain ⟨-, rfl⟩ := itemIssue?_eq_some_iff.1 first
  obtain ⟨-, rfl⟩ := itemIssue?_eq_some_iff.1 second
  exact .item less

theorem map_text?_keys_iff {inner : Members} {roles : List String} :
    (Members.keys inner).map Document.text? = roles.map some ↔
      inner.map Prod.fst = roles.map Key.text := by
  have key_iff (key : Key) (role : String) :
      key.toDocument.text? = some role ↔ key = .text role := by
    cases key <;> simp [Key.toDocument, Document.text?]
  rw [Members.keys, List.map_map]
  induction inner generalizing roles with
  | nil => cases roles <;> simp
  | cons member rest ih =>
      cases roles with
      | nil => simp
      | cons role roles => simp [key_iff, ih]

/-- All that the member that gives the roles can ask for. -/
theorem AsksFor.inv {given : Document} {asked : Option (List String)}
    (asks : AsksFor members asked) (gives : GivesRoles members name given) :
    (given = .null ∧ asked = none) ∨
      given.elements = .ok (listed given) ∧ given.text? = none ∧
        ∃ roles, asked = some roles ∧ (listed given).map Document.text? = roles.map some := by
  cases asks with
  | absent nowhere => exact absurd gives (nowhere name given)
  | nothing gives' =>
      obtain ⟨-, rfl⟩ := gives.inj gives'
      exact Or.inl ⟨rfl, rfl⟩
  | items gives' texts =>
      obtain ⟨-, rfl⟩ := gives.inj gives'
      exact Or.inr ⟨rfl, rfl, _, rfl, texts⟩
  | keys gives' names =>
      obtain ⟨-, rfl⟩ := gives.inj gives'
      exact Or.inr ⟨rfl, rfl, _, rfl, map_text?_keys_iff.2 names⟩

/-- What the roles come to when they are read: exactly what is asked for, or all that is wrong. -/
structure SettlesRoles (members : Members) (checked : Checked (Option (List String))) : Prop where
  ok_iff : ∀ asked, checked = .ok asked ↔ AsksFor members asked
  mem_iff : ∀ issue, issue ∈ checked.issues ↔ WrongRoles members issue
  inOrder : InOrder checked.issues
  refuses : ∀ issues, checked = .error issues → issues ≠ []

theorem settlesRoles_absent (nowhere : ∀ name given, ¬ GivesRoles members name given) :
    SettlesRoles members (.ok none) where
  ok_iff asked := by
    constructor
    · intro same
      cases same
      exact .absent nowhere
    · intro asks
      cases asks with
      | absent => rfl
      | nothing gives => exact absurd gives (nowhere _ _)
      | items gives => exact absurd gives (nowhere _ _)
      | keys gives => exact absurd gives (nowhere _ _)
  mem_iff issue := by
    refine ⟨fun among => absurd among List.not_mem_nil, fun wrong => ?_⟩
    cases wrong with
    | bareText gives => exact absurd gives (nowhere _ _)
    | role gives => exact absurd gives (nowhere _ _)
  inOrder := .nil
  refuses issues failed := by cases failed

theorem settlesRoles_null (gives : GivesRoles members name .null) :
    SettlesRoles members (.ok none) where
  ok_iff asked := by
    constructor
    · intro same
      cases same
      exact .nothing gives
    · intro asks
      obtain ⟨-, rfl⟩ | ⟨gone, -⟩ := asks.inv gives
      · rfl
      · cases gone
  mem_iff issue := by
    refine ⟨fun among => absurd among List.not_mem_nil, fun wrong => ?_⟩
    cases wrong with
    | bareText gives' isText =>
        obtain ⟨-, rfl⟩ := gives.inj gives'
        cases isText
    | role gives' there =>
        obtain ⟨-, rfl⟩ := gives.inj gives'
        cases there
  inOrder := .nil
  refuses issues failed := by cases failed

theorem settlesRoles_text {given : Document} {text : String}
    (gives : GivesRoles members name given) (isText : given.text? = some text) :
    SettlesRoles members (.error [⟨.textForRoles, [.name name], given⟩]) where
  ok_iff asked := by
    refine ⟨fun same => (by cases same), fun asks => ?_⟩
    obtain ⟨rfl, -⟩ | ⟨-, noText, -⟩ := asks.inv gives
    · cases isText
    · rw [isText] at noText
      cases noText
  mem_iff issue := by
    rw [Checked.issues, List.mem_singleton]
    constructor
    · rintro rfl
      exact .bareText gives isText
    · rintro (⟨gives', -⟩ | ⟨gives', there, -⟩)
      · obtain ⟨rfl, rfl⟩ := gives.inj gives'
        rfl
      · -- Nothing is listed in a text.
        obtain ⟨-, rfl⟩ := gives.inj gives'
        cases given with
        | text => cases there
        | guarded => cases there
        | _ => cases isText
  inOrder := List.pairwise_singleton ..
  refuses issues failed := by
    cases failed
    simp

/-- What is listed is read as roles exactly when it lists texts. -/
theorem map_readRoleNames_ok_iff {items : List Document} {asked : Option (List String)} :
    (readRoleNames name 0 items).map some = .ok asked ↔
      ∃ roles, asked = some roles ∧ items.map Document.text? = roles.map some := by
  have texts_iff (roles : List String) :
      items.map Document.text? = roles.map some ↔ readRoleNames name 0 items = .ok roles :=
    readRoleNames_ok_iff.symm
  simp only [texts_iff]
  cases readRoleNames name 0 items with
  | ok roles => simp [Except.map, eq_comm]
  | error issues => simp [Except.map]

theorem settlesRoles_listed {given : Document} (gives : GivesRoles members name given)
    (gone : given.elements = .ok (listed given)) (noText : given.text? = none) :
    SettlesRoles members ((readRoleNames name 0 (listed given)).map some) := by
  have issues_eq : Checked.issues ((readRoleNames name 0 (listed given)).map some) =
      (readRoleNames name 0 (listed given)).issues := by
    cases readRoleNames name 0 (listed given) <;> rfl
  constructor
  case ok_iff =>
    intro asked
    rw [map_readRoleNames_ok_iff]
    constructor
    · rintro ⟨roles, rfl, texts⟩
      cases given with
      | array items => exact .items gives texts
      | object inner => exact .keys gives (map_text?_keys_iff.1 texts)
      | text => cases noText
      | guarded => cases noText
      | _ => cases gone
    · intro asks
      obtain ⟨rfl, -⟩ | ⟨-, -, read⟩ := asks.inv gives
      · cases gone
      · exact read
  case mem_iff =>
    intro issue
    rw [issues_eq, mem_issues_readRoleNames_iff]
    constructor
    · rintro ⟨index, item, there, other, rfl⟩
      exact .role gives there other
    · rintro (⟨gives', isText⟩ | ⟨gives', there, other⟩)
      · obtain ⟨-, rfl⟩ := gives.inj gives'
        rw [noText] at isText
        cases isText
      · obtain ⟨rfl, rfl⟩ := gives.inj gives'
        exact ⟨_, _, there, other, rfl⟩
  case inOrder =>
    rw [issues_eq]
    exact inOrder_issues_readRoleNames name (listed given)
  case refuses =>
    rintro issues failed rfl
    cases read : readRoleNames name 0 (listed given) with
    | ok roles =>
        rw [read] at failed
        cases failed
    | error issues =>
        rw [read] at failed
        cases failed
        exact readRoleNames_ne_error_nil read

/-- Roles that can be gone through are read, or refused with all that is wrong with them. -/
theorem readRoles_settles (divisible : ¬ RolesIndivisible (.object members)) :
    ∃ checked, readRoles members = .ok checked ∧ SettlesRoles members checked := by
  cases named : firstNamed members "allowedRoles" "allowed_roles" with
  | none =>
      exact ⟨.ok none, by simp only [readRoles, named],
        settlesRoles_absent (firstNamed_eq_none_iff.1 named)⟩
  | some entry =>
      obtain ⟨name, given⟩ := entry
      have gives := firstNamed_eq_some_iff.1 named
      have indivisible (whole : given.IsIndivisible) : RolesIndivisible (.object members) :=
        ⟨given, ⟨members, name, rfl, named⟩, whole⟩
      cases given with
      | null => exact ⟨.ok none, by simp only [readRoles, named], settlesRoles_null gives⟩
      | text value =>
          exact ⟨_, by simp only [readRoles, named, Document.text?],
            settlesRoles_text gives rfl⟩
      | guarded value =>
          exact ⟨_, by simp only [readRoles, named, Document.text?],
            settlesRoles_text gives rfl⟩
      | array items =>
          exact ⟨_, by simp only [readRoles, named, Document.text?, Document.elements]; rfl,
            settlesRoles_listed gives rfl rfl⟩
      | object inner =>
          exact ⟨_, by simp only [readRoles, named, Document.text?, Document.elements]; rfl,
            settlesRoles_listed gives rfl rfl⟩
      | _ => exact absurd (indivisible trivial) divisible

end

/-! ### Rules -/

theorem WrongText.place_eq {members : Members} {name : String} {issue : Issue}
    (wrong : WrongText members name issue) : issue.place = [.name name] := by
  cases wrong <;> rfl

/-- The roles are declared behind the two texts, whichever name counts. -/
theorem GivesRoles.two_le_idxOf {members : Members} {name : String} {given : Document}
    (gives : GivesRoles members name given) : 2 ≤ declared.idxOf name := by
  cases gives <;> decide

theorem WrongRoles.place_eq {members : Members} {issue : Issue}
    (wrong : WrongRoles members issue) :
    ∃ name inner, issue.place = .name name :: inner ∧ 2 ≤ declared.idxOf name := by
  cases wrong with
  | bareText gives => exact ⟨_, _, rfl, gives.two_le_idxOf⟩
  | role gives => exact ⟨_, _, rfl, gives.two_le_idxOf⟩

/-- What is wrong with a text stands before what is wrong with the roles. -/
theorem WrongText.precedes {members : Members} {name : String} {one other : Issue}
    (wrong : WrongText members name one) (early : declared.idxOf name < 2)
    (wrong' : WrongRoles members other) : Precedes one.place other.place := by
  obtain ⟨name', inner, place, late⟩ := wrong'.place_eq
  rw [wrong.place_eq, place]
  exact .member (by omega)

/-- The issues with the parts of a rule, one part after another, are in order. -/
theorem inOrder_append {members : Members} {resource action roles : List Issue}
    (ofResource : ∀ issue ∈ resource, WrongText members "resource" issue)
    (ofAction : ∀ issue ∈ action, WrongText members "action" issue)
    (ofRoles : ∀ issue ∈ roles, WrongRoles members issue)
    (resourceInOrder : InOrder resource) (actionInOrder : InOrder action)
    (rolesInOrder : InOrder roles) : InOrder (resource ++ action ++ roles) := by
  refine List.pairwise_append.2 ⟨List.pairwise_append.2 ⟨resourceInOrder, actionInOrder, ?_⟩,
    rolesInOrder, ?_⟩
  · intro one first other second
    rw [(ofResource one first).place_eq, (ofAction other second).place_eq]
    exact .member (by decide)
  · intro one first other second
    obtain first | first := List.mem_append.1 first
    · exact (ofResource one first).precedes (by decide) (ofRoles other second)
    · exact (ofAction one first).precedes (by decide) (ofRoles other second)

/-- What is wrong with a text is at most one issue, which is there when it is not read. -/
theorem issues_readText (members : Members) (name : String) :
    InOrder (readText members name).issues ∧
      (∀ issue, issue ∈ (readText members name).issues ↔ WrongText members name issue) ∧
      ∀ issues, readText members name = .error issues → issues ≠ [] := by
  obtain ⟨text, read, nothing⟩ | ⟨issue, failed, only⟩ := readText_cases members name
  · rw [read]
    exact ⟨.nil, fun issue => by simp [Checked.issues, nothing issue],
      fun issues failed => by cases failed⟩
  · rw [failed]
    refine ⟨List.pairwise_singleton .., fun other => ?_, fun issues failed => ?_⟩
    · rw [Checked.issues, List.mem_singleton, only]
    · cases failed
      simp

theorem ofMembers_ok_iff_describes {members : Members} {rule : Rule}
    (divisible : ¬ RolesIndivisible (.object members)) :
    ofMembers members = .ok rule ↔ Describes (.object members) rule := by
  obtain ⟨checked, read, settles⟩ := readRoles_settles divisible
  rw [ofMembers_ok_iff, readText_ok_iff, readText_ok_iff, readCondition_eq, read,
    Except.ok.injEq, settles.ok_iff]
  constructor
  · rintro ⟨⟨_, typed, typeText⟩, ⟨_, acted, actionText⟩, roles, condition⟩
    exact .object typed typeText acted actionText roles condition
  · rintro ⟨typed, typeText, acted, actionText, roles, condition⟩
    exact ⟨⟨_, typed, typeText⟩, ⟨_, acted, actionText⟩, roles, condition⟩

/-- An object from which no rule is read is refused with the issues of all its parts. -/
theorem ofMembers_refused {members : Members} {checked : Checked (Option (List String))}
    (read : readRoles members = .ok checked) (refused : ∀ rule, ofMembers members ≠ .ok rule) :
    ofMembers members = .error (.invalid modelName
        ((readText members "resource").issues ++ (readText members "action").issues ++
          checked.issues)) ∧
      ((∃ issues, readText members "resource" = .error issues) ∨
        (∃ issues, readText members "action" = .error issues) ∨
        ∃ issues, checked = .error issues) := by
  simp only [ofMembers, read, Failure.lift, bind, Except.bind] at refused ⊢
  cases typed : readText members "resource" with
  | error issues => exact ⟨rfl, Or.inl ⟨issues, rfl⟩⟩
  | ok resource =>
      cases acted : readText members "action" with
      | error issues => exact ⟨rfl, Or.inr (Or.inl ⟨issues, rfl⟩)⟩
      | ok action =>
          cases checked with
          | error issues => exact ⟨rfl, Or.inr (Or.inr ⟨issues, rfl⟩)⟩
          | ok allowed =>
              simp only [typed, acted] at refused
              exact absurd rfl (refused _)

theorem wrong_object_iff {members : Members} {issue : Issue} :
    Wrong (.object members) issue ↔
      WrongText members "resource" issue ∨ WrongText members "action" issue ∨
        WrongRoles members issue := by
  constructor
  · rintro (other | wrong | wrong | wrong)
    · exact absurd rfl (other members)
    · exact Or.inl wrong
    · exact Or.inr (Or.inl wrong)
    · exact Or.inr (Or.inr wrong)
  · rintro (wrong | wrong | wrong)
    · exact .resource wrong
    · exact .action wrong
    · exact .roles wrong

theorem wrong_iff_of_noObject {document : Document} {issue : Issue}
    (other : ∀ members, document ≠ .object members) :
    Wrong document issue ↔ issue = ⟨.notModel modelName, [], document⟩ := by
  constructor
  · rintro (- | - | - | -)
    · rfl
    all_goals exact absurd rfl (other _)
  · rintro rfl
    exact .noObject other

theorem ofDocument_of_noObject {document : Document}
    (other : ∀ members, document ≠ .object members) :
    ofDocument document =
      .error (.invalid modelName [⟨.notModel modelName, [], document⟩]) := by
  cases document with
  | object members => exact absurd rfl (other members)
  | _ => rfl

/-- **Reading a rule.** A rule is read exactly from a document that describes it. A document that
describes none is refused with everything that is wrong with it: each fault once, in the order of
the fields and of the items in a list of roles. -/
theorem toRule_settles {described : Document} (divisible : ¬ RolesIndivisible described) :
    (∀ rule, RuleInput.toRule (.document described) = .ok rule ↔ Describes described rule) ∧
      ((¬ ∃ rule, Describes described rule) →
        ∃ issues, RuleInput.toRule (.document described) = .error (.invalid modelName issues) ∧
          issues ≠ [] ∧ InOrder issues ∧ ∀ issue, issue ∈ issues ↔ Wrong described issue) := by
  by_cases object : ∃ members, described = .object members
  · obtain ⟨members, rfl⟩ := object
    have describes_iff (rule : Rule) :
        RuleInput.toRule (.document (.object members)) = .ok rule ↔
          Describes (.object members) rule := ofMembers_ok_iff_describes divisible
    refine ⟨describes_iff, fun undescribed => ?_⟩
    -- Each of the three parts is settled by itself; what is wrong with the whole is what is wrong
    -- with them, one after another.
    obtain ⟨checked, read, settles⟩ := readRoles_settles divisible
    obtain ⟨typeInOrder, mem_type_iff, typeRefuses⟩ := issues_readText members "resource"
    obtain ⟨actionInOrder, mem_action_iff, actionRefuses⟩ := issues_readText members "action"
    obtain ⟨refused, failed⟩ := ofMembers_refused read fun rule made =>
      undescribed ⟨rule, (describes_iff rule).1 made⟩
    refine ⟨_, refused, ?_, ?_, fun issue => ?_⟩
    · obtain ⟨issues, failed⟩ | ⟨issues, failed⟩ | ⟨issues, failed⟩ := failed
      · simp [failed, Checked.issues, typeRefuses issues failed]
      · simp [failed, Checked.issues, actionRefuses issues failed]
      · simp [failed, Checked.issues, settles.refuses issues failed]
    · exact inOrder_append (fun issue => (mem_type_iff issue).1)
        (fun issue => (mem_action_iff issue).1) (fun issue => (settles.mem_iff issue).1)
        typeInOrder actionInOrder settles.inOrder
    · rw [wrong_object_iff, List.mem_append, List.mem_append, mem_type_iff, mem_action_iff,
        settles.mem_iff, or_assoc]
  · have other : ∀ members, described ≠ .object members :=
      fun members same => object ⟨members, same⟩
    have refused : RuleInput.toRule (.document described) =
        .error (.invalid modelName [⟨.notModel modelName, [], described⟩]) :=
      ofDocument_of_noObject other
    refine ⟨fun rule => ⟨fun read => ?_, fun describes => ?_⟩, fun _ =>
      ⟨_, refused, by simp, List.pairwise_singleton .., fun issue => ?_⟩⟩
    · rw [refused] at read
      cases read
    · cases describes
      exact absurd rfl (other _)
    · rw [wrong_iff_of_noObject other, List.mem_singleton]

/-- Every part of a document can be wrong at once, its roles more than once. -/
theorem toRule_settles_with_faults_in_all_parts :
    ∃ described, described = .record [("action", .int 1),
        ("allowed_roles", .array [.text "a", .null, .text "b", .int 2])] ∧
      ¬ RolesIndivisible described ∧
      ∃ issues, RuleInput.toRule (.document described) = .error (.invalid modelName issues) ∧
        issues = [⟨.missing, [.name "resource"], described⟩, ⟨.notText, [.name "action"], .int 1⟩,
          ⟨.notText, [.name "allowed_roles", .index 1], .null⟩,
          ⟨.notText, [.name "allowed_roles", .index 3], .int 2⟩] ∧
        InOrder issues ∧ ∀ issue, issue ∈ issues ↔ Wrong described issue := by
  have divisible : ¬ RolesIndivisible (.record [("action", .int 1),
      ("allowed_roles", .array [.text "a", .null, .text "b", .int 2])]) := by
    rintro ⟨_, ⟨_, _, same, named⟩, indivisible⟩
    cases same
    cases named
    exact indivisible
  refine ⟨_, rfl, divisible, ?_⟩
  obtain ⟨reads, refuses⟩ := toRule_settles divisible
  obtain ⟨issues, refused, -, inOrder, complete⟩ := refuses fun ⟨rule, describes⟩ => by
    have read := (reads rule).2 describes
    cases read
  refine ⟨issues, refused, ?_, inOrder, complete⟩
  cases refused
  rfl

end AccessRules.Rule
