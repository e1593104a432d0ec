import AccessRules.Proofs.Condition.Operation
import AccessRules.Proofs.Resolver.Monotone

/-!
# Roles by a list and by conditions

Who holds a role can be asked for in two ways: by a rule that lists the roles, or by one rule for
each of them whose condition looks the role up among those of the subject. The list is compared with
the roles as they are, while the condition sees them guarded. Guarding keeps the text of a role, and
a text equals every document that has it, guarded or not (`isAmong_guarded`); so both ways ask the
same, also for a role that reads as a number here.

**`Resolver.Built.roles_agree`** compares a resolver over the one rule with a resolver over the
others: they grant the same requests and list the same actions, and no condition breaks on the way.
-/

namespace AccessRules

/-! ### The condition on a role -/

/-- The role is among those of the subject. -/
def Subject.Holds (subject : Subject) (role : String) : Prop :=
  ∃ held ∈ subject.roles, held.text? = some role

theorem Subject.isAmong_roles_iff {subject : Subject} {role : String} :
    (Document.text role).isAmong subject.roles = true ↔ subject.Holds role := by
  simp [Document.isAmong, Document.equal_text_iff, Holds]

namespace Condition

/-- The condition that a role is among those of the subject. -/
def holdsRole (role : String) : Document := operation "in" [.text role, valueAt "subject.roles"]

/-- A text is among guarded documents when it is among the documents as they are. -/
theorem isAmong_guarded (role : String) (held : List Document) :
    (Document.text role).isAmong (held.map Document.guarding) =
      (Document.text role).isAmong held := by
  rw [Bool.eq_iff_iff]
  simp [Document.isAmong, Document.equal_text_iff, text?_guarding]

variable {subject : Subject} {resource : Resource}

theorem variableIn?_roles (subject : Subject) (resource : Resource) :
    variableIn? (context subject resource) (.text "subject.roles") =
      .ok (some (.array subject.roles)) := rfl

/-- The condition comes to whether the role is among those of the subject, whatever they are. -/
theorem meaning_holdsRole (role : String) (subject : Subject) (resource : Resource) :
    meaning (holdsRole role) (context subject resource).guarding =
      .ok (.bool ((Document.text role).isAmong subject.roles)) := by
  have named : Operator.ofName? "in" = some (.function .isIn) := rfl
  have whole := isTrue_context subject resource
  have roles : meaning (valueAt "subject.roles") (context subject resource).guarding =
      .ok (.array (subject.roles.map Document.guarding)) := by
    rw [meaning_valueAt whole (variableIn?_context (variableIn?_roles subject resource)),
      Document.guarding, Document.guardingItems_eq_map]
  rw [holdsRole, meaning_operation named whole (.cons (meaning_text role _) (.cons roles .nil)),
    ← isAmong_guarded]
  rfl

theorem outcome_holdsRole (role : String) (subject : Subject) (resource : Resource) :
    Evaluator.standard.outcome (holdsRole role) subject resource =
      ⟨(Document.text role).isAmong subject.roles, none⟩ := by
  show outcome (holdsRole role) subject resource = _
  rw [outcome_of_isOperation rfl, meaning_holdsRole]
  rfl

end Condition

/-! ### The rules -/

namespace Rule

/-- The rule that grants an action to whoever holds one of the roles. -/
def forRoles (type action : String) (roles : List String) : Rule :=
  ⟨type, action, some roles, none, by simp⟩

/-- The rule that grants an action on the condition that the subject holds a role. -/
def onRole (type action role : String) : Rule :=
  ⟨type, action, none, some (Condition.holdsRole role), by
    simp [Condition.holdsRole, Condition.operation]⟩

variable {type granted role : String} {roles : List String} {subject : Subject}
  {resource : Resource} {action : Document}

theorem forRoles_grants_iff :
    (forRoles type granted roles).Grants .standard subject resource action ↔
      (resource.type.text? = some type ∧ action.text? = some granted) ∧
        ∃ role ∈ roles, subject.Holds role := by
  constructor
  · rintro ⟨candidate, rolesPass, -⟩
    exact ⟨candidate, rolesPass roles rfl⟩
  · rintro ⟨candidate, held⟩
    refine ⟨candidate, fun asked same => ?_, fun _ stated => nomatch stated⟩
    obtain rfl := Option.some.inj same
    exact held

theorem onRole_grants_iff :
    (onRole type granted role).Grants .standard subject resource action ↔
      (resource.type.text? = some type ∧ action.text? = some granted) ∧ subject.Holds role := by
  have outcome := Condition.outcome_holdsRole role subject resource
  constructor
  · rintro ⟨candidate, -, condition⟩
    obtain ⟨-, satisfied⟩ := condition (Condition.holdsRole role) rfl
    rw [outcome] at satisfied
    exact ⟨candidate, Subject.isAmong_roles_iff.1 satisfied⟩
  · rintro ⟨candidate, held⟩
    refine ⟨candidate, fun _ asked => (nomatch asked), fun condition same => ?_⟩
    obtain rfl := Option.some.inj same
    rw [outcome]
    exact ⟨rfl, Subject.isAmong_roles_iff.2 held⟩

/-- Looking a role up never fails. -/
theorem onRole_report? (type granted role : String) (subject : Subject) (resource : Resource) :
    ((onRole type granted role).attempt .standard subject resource).report? = none := by
  rw [← Option.not_isSome_iff_eq_none, attempt_report?_iff]
  rintro ⟨-, condition, stated, broken⟩
  obtain rfl := Option.some.inj stated
  rw [Condition.outcome_holdsRole] at broken
  cases broken

end Rule

/-! ### Resolvers over them -/

namespace Resolver

/-- Of a list that holds a single item, however often, that item alone is left. -/
theorem distinct_of_forall_eq {item : String} {rest : List String}
    (same : ∀ other ∈ rest, other = item) : distinct (item :: rest) = [item] := by
  rw [distinct, List.filter_eq_nil_iff.2]
  intro other among
  simp [same other (mem_distinct.1 among)]

theorem mentioned_forRoles (type action : String) (roles : List String) (asked : Document) :
    mentioned [Rule.forRoles type action roles] asked =
      if asked.text? = some type then [action] else [] := by
  by_cases same : asked.text? = some type <;> simp [mentioned, Rule.forRoles, same]

theorem mentioned_onRole (type action : String) (roles : List String) (asked : Document) :
    mentioned (roles.map (Rule.onRole type action)) asked =
      if asked.text? = some type then roles.map fun _ => action else [] := by
  by_cases same : asked.text? = some type <;>
    simp [mentioned, List.filter_map, Rule.onRole, same, Function.comp_def]

/-- When no condition of a candidate breaks, none is reported or counted. -/
theorem examine_unbroken {store : Store} {evaluator : Evaluator} {subject : Subject}
    {resource : Resource} {action : Document}
    (unbroken : ∀ entry ∈ store.matching resource.type action,
      (entry.2.attempt evaluator subject resource).report? = none) :
    ((⟨store, evaluator⟩ : Resolver).examine subject resource action).reports = [] ∧
      ((⟨store, evaluator⟩ : Resolver).decide subject resource action).conditionErrors = 0 := by
  have silent {entries : List (Nat × Rule)}
      (among : ∀ entry ∈ entries, entry ∈ store.matching resource.type action) :
      reportsOf evaluator subject resource entries = [] :=
    List.filterMap_eq_nil_iff.2 fun entry there => unbroken entry (among entry there)
  rw [decide, examine]
  obtain ⟨before, index, rule, after, split, -, -, ended⟩ | ⟨-, ended⟩ :=
    scan_cases evaluator subject resource (store.matching resource.type action)
  · have nothing : reportsOf evaluator subject resource before = [] := silent fun entry there => by
      rw [split]
      exact List.mem_append_left _ there
    rw [ended, nothing]
    exact ⟨rfl, rfl⟩
  · rw [ended, silent fun _ => id]
    exact ⟨rfl, rfl⟩

variable {store : Store} {type action : String} {roles : List String}

theorem can_forRoles_iff (coherent : store.Coherent)
    (only : store.rules = [.forRoles type action roles]) (subject : Subject) (resource : Resource)
    (asked : Document) :
    (⟨store, .standard⟩ : Resolver).can subject resource asked = true ↔
      (resource.type.text? = some type ∧ asked.text? = some action) ∧
        ∃ role ∈ roles, subject.Holds role := by
  rw [coherent.can_iff, only, ← Rule.forRoles_grants_iff]
  simp only [List.mem_singleton, exists_eq_left]

theorem can_onRole_iff (coherent : store.Coherent)
    (only : store.rules = roles.map (.onRole type action)) (subject : Subject)
    (resource : Resource) (asked : Document) :
    (⟨store, .standard⟩ : Resolver).can subject resource asked = true ↔
      (resource.type.text? = some type ∧ asked.text? = some action) ∧
        ∃ role ∈ roles, subject.Holds role := by
  rw [coherent.can_iff, only]
  constructor
  · rintro ⟨rule, among, grants⟩
    obtain ⟨role, asks, rfl⟩ := List.mem_map.1 among
    obtain ⟨candidate, held⟩ := Rule.onRole_grants_iff.1 grants
    exact ⟨candidate, role, asks, held⟩
  · rintro ⟨candidate, role, asks, held⟩
    exact ⟨_, List.mem_map_of_mem asks, Rule.onRole_grants_iff.2 ⟨candidate, held⟩⟩

/-- No rule with a condition on a role is reported when it is tried. -/
theorem report?_onRole (coherent : store.Coherent)
    (only : store.rules = roles.map (.onRole type action)) (subject : Subject)
    (resource : Resource) (asked asked' : Document) :
    ∀ entry ∈ store.matching asked asked',
      (entry.2.attempt .standard subject resource).report? = none := by
  rintro ⟨index, rule⟩ among
  obtain ⟨there, -⟩ := coherent.mem_matching.1 among
  have listed : rule ∈ roles.map (Rule.onRole type action) := only ▸ List.mem_of_getElem? there
  obtain ⟨role, -, rfl⟩ := List.mem_map.1 listed
  exact Rule.onRole_report? type action role subject resource

section

variable {other : Store} (coherent : store.Coherent) (coherent' : other.Coherent)
  (byList : store.rules = [.forRoles type action roles])
  (byConditions : other.rules = roles.map (.onRole type action))

include coherent coherent' byList byConditions

theorem can_onRole_eq (subject : Subject) (resource : Resource) (asked : Document) :
    (⟨other, .standard⟩ : Resolver).can subject resource asked =
      (⟨store, .standard⟩ : Resolver).can subject resource asked :=
  Bool.eq_iff_iff.2 ((can_onRole_iff coherent' byConditions subject resource asked).trans
    (can_forRoles_iff coherent byList subject resource asked).symm)

theorem allowedActions_onRole_eq (subject : Subject) (resource : Resource) :
    (⟨other, .standard⟩ : Resolver).allowedActions subject resource =
      (⟨store, .standard⟩ : Resolver).allowedActions subject resource := by
  have alike := can_onRole_eq coherent coherent' byList byConditions subject resource
  rw [coherent.allowedActions_eq, coherent'.allowedActions_eq, byList, byConditions,
    mentioned_forRoles, mentioned_onRole]
  simp only [alike]
  split
  next =>
    cases roles with
    | nil =>
        -- Without any role only the rule with the list mentions the action, and nobody may do it.
        have refused :
            (⟨store, .standard⟩ : Resolver).can subject resource (.text action) = false :=
          Bool.eq_false_iff.2 fun can => by
            simpa using (can_forRoles_iff coherent byList subject resource _).1 can
        simp [distinct, refused]
    | cons role rest =>
        have same : distinct ((role :: rest).map fun _ => action) = [action] :=
          distinct_of_forall_eq (by simp)
        rw [same, distinct_of_forall_eq (by simp)]
  next => rfl

end

/-- What two resolvers answer alike about a subject and a resource, the second without a report. -/
structure AgreeOnRoles (one other : Resolver) (type action : String) (roles : List String)
    (subject : Subject) (resource : Resource) : Prop where
  /-- The action is granted for the type alone, and to those alone who hold one of the roles. -/
  granted_iff : ∀ asked, one.can subject resource asked = true ↔
    (resource.type.text? = some type ∧ asked.text? = some action) ∧
      ∃ role ∈ roles, subject.Holds role
  can : ∀ asked, other.can subject resource asked = one.can subject resource asked
  listed : other.allowedActions subject resource = one.allowedActions subject resource
  /-- None of the rules that the second tries has a condition that breaks: none is counted, and
  nothing is told but the decision. -/
  unbroken : ∀ asked, (other.decide subject resource asked).conditionErrors = 0 ∧
    other.noticesOf subject resource asked (other.examine subject resource asked) =
      [.decided subject resource asked (other.decide subject resource asked)]

/-- **Roles by a list and by conditions.** A resolver over one rule that lists the roles and a
resolver over a rule for each of them, which has a condition on the role in place of the list,
answer alike. -/
theorem Built.roles_agree {one other : Resolver} (built : one.Built) (built' : other.Built)
    {type action : String} {roles : List String}
    (byList : one.rules = [.forRoles type action roles])
    (byConditions : other.rules = roles.map (.onRole type action))
    (subject : Subject) (resource : Resource) :
    AgreeOnRoles one other type action roles subject resource := by
  obtain ⟨made, operations⟩ := built
  obtain ⟨made', operations'⟩ := built'
  have coherent := Store.coherent_of_ofInputs made operations
  have coherent' := Store.coherent_of_ofInputs made' operations'
  rw [rules, coherent.view_eq] at byList
  rw [rules, coherent'.view_eq] at byConditions
  constructor
  case granted_iff => exact can_forRoles_iff coherent byList subject resource
  case can => exact can_onRole_eq coherent coherent' byList byConditions subject resource
  case listed =>
    exact allowedActions_onRole_eq coherent coherent' byList byConditions subject resource
  case unbroken =>
    intro asked
    obtain ⟨silent, uncounted⟩ :=
      examine_unbroken (report?_onRole coherent' byConditions subject resource _ asked)
    refine ⟨uncounted, ?_⟩
    rw [noticesOf, silent]
    rfl

/-- A role that reads as a number here, which the subject holds twice. -/
theorem Built.roles_agree_on_odd_numeral :
    let one : Resolver :=
      ⟨⟨[.forRoles "document" "read" ["admin", "1_000"]], 0, 0, none⟩, .standard⟩
    let other : Resolver :=
      ⟨⟨["admin", "1_000"].map (.onRole "document" "read"), 1, 0, none⟩, .standard⟩
    let subject : Subject := ⟨.text "u1", [.text "1_000", .text "1_000"], []⟩
    let resource : Resource := ⟨.text "d1", .text "document", []⟩
    one.Built ∧ other.Built ∧ (Document.text "1_000").guarding = .guarded "1_000" ∧
      AgreeOnRoles one other "document" "read" ["admin", "1_000"] subject resource ∧
      other.can subject resource (.text "read") = true := by
  intro one other subject resource
  have made : Store.ofInputs 0 (one.rules.map .rule) = .ok one.store := rfl
  have made' : Store.ofInputs 1 (other.rules.map .rule) = .ok other.store := rfl
  have built : one.Built := .intro made []
  have built' : other.Built := .intro made' []
  have agree : AgreeOnRoles one other "document" "read" ["admin", "1_000"] subject resource :=
    built.roles_agree built' rfl rfl subject resource
  have granted : one.can subject resource (.text "read") = true := rfl
  exact ⟨built, built', Condition.guarding_underscored, agree, (agree.can _).trans granted⟩

end Resolver

end AccessRules
