import AccessRules.Proofs.Loading.Routes

/-!
# The first entry that is no rule

A load of documents in which some entry is no rule fails, and reports the place of the first such
entry with the issues that were found. One kind of entry is not reported: when what it gives for its
roles is a truth value or a number (`Rule.RolesIndivisible`), going through the roles fails before
there are any issues, and that fault passes through the load as it is.

**`Engine.firstRefused_reported_iff`** says that there is no other exception: the load reports the
first entry that is no rule exactly when the roles of that entry are not of this kind.
-/

namespace AccessRules

/-- A truth value, a number, or a value beyond those of JSON: it is not gone through. Among the
values beyond JSON are bytes and sets, which could be, were it known what is in them. -/
def Document.IsIndivisible : Document → Prop
  | .bool _ | .int _ | .float _ | .leaf _ => True
  | _ => False

namespace Rule

/-- The entry gives the document for its roles, under the name that counts. -/
def GivesForRoles (entry roles : Document) : Prop :=
  ∃ members name, entry = .object members ∧
    firstNamed members "allowedRoles" "allowed_roles" = some (name, roles)

/-- What the entry gives for its roles cannot be gone through, or is no value of JSON. -/
def RolesIndivisible (entry : Document) : Prop :=
  ∃ roles, GivesForRoles entry roles ∧ roles.IsIndivisible

theorem readRoles_of_indivisible {members : Members} {name : String} {roles : Document}
    (named : firstNamed members "allowedRoles" "allowed_roles" = some (name, roles))
    (indivisible : roles.IsIndivisible) :
    readRoles members = .error (.notIterable roles.kind) := by
  cases roles with
  | bool | int | float | leaf => simp only [readRoles, named]; rfl
  | _ => cases indivisible

/-- Roles are read, with or without issues, unless they are indivisible. -/
theorem readRoles_of_divisible {members : Members}
    (divisible : ¬ RolesIndivisible (.object members)) :
    ∃ checked, readRoles members = .ok checked := by
  cases named : firstNamed members "allowedRoles" "allowed_roles" with
  | none => exact ⟨.ok none, by simp [readRoles, named]⟩
  | some entry =>
      obtain ⟨name, roles⟩ := entry
      have whole : ¬ roles.IsIndivisible :=
        fun indivisible => divisible ⟨roles, ⟨members, name, rfl, named⟩, indivisible⟩
      cases roles with
      | null => exact ⟨.ok none, by simp [readRoles, named]⟩
      | text | guarded => exact ⟨_, by simp only [readRoles, named, Document.text?]; rfl⟩
      | array | object =>
          exact ⟨_, by simp only [readRoles, named, Document.text?, Document.elements]; rfl⟩
      | bool | int | float | leaf => exact absurd trivial whole

/-- Going through roles that are indivisible is the fault of the entry. -/
theorem ofDocument_of_indivisible {entry roles : Document} (gives : GivesForRoles entry roles)
    (indivisible : roles.IsIndivisible) :
    ofDocument entry = .error (.fault (.notIterable roles.kind)) := by
  obtain ⟨members, name, rfl, named⟩ := gives
  rw [ofDocument, ofMembers, readRoles_of_indivisible named indivisible]
  rfl

/-- An entry that is no rule has issues, unless its roles are indivisible. -/
theorem ofDocument_error_of_divisible {entry : Document} {failure : Failure}
    (fails : ofDocument entry = .error failure) (divisible : ¬ RolesIndivisible entry) :
    ∃ issues, failure = .invalid modelName issues := by
  cases entry with
  | object members =>
      obtain ⟨checked, read⟩ := readRoles_of_divisible divisible
      simp only [ofDocument, ofMembers, read, Failure.lift, bind, Except.bind] at fails
      split at fails
      · cases fails
      · exact ⟨_, (Except.error.inj fails).symm⟩
  | _ => exact ⟨_, (Except.error.inj fails).symm⟩

end Rule

/-- The entry at `index` is no rule, and the entries in front of it are. -/
structure FirstInvalid (items : List Document) (index : Nat) (entry : Document)
    (failure : Failure) : Prop where
  found : items[index]? = some entry
  invalid : Rule.ofDocument entry = .error failure
  least : ∀ earlier < index, ∃ other rule, items[earlier]? = some other ∧
    Rule.ofDocument other = .ok rule

/-- Entries that are not all rules have a first one that is none. -/
theorem exists_firstInvalid {items : List Document}
    (invalid : ∃ entry ∈ items, ∃ failure, Rule.ofDocument entry = .error failure) :
    ∃ index entry failure, FirstInvalid items index entry failure := by
  obtain ⟨entry, among, failure, fails⟩ := invalid
  obtain ⟨rules, describe⟩ | ⟨index, failure, refused⟩ :=
    describe_or_refused (items.map RuleInput.document)
  · obtain ⟨rule, made⟩ := describe.toRule_isOk (List.mem_map_of_mem among)
    rw [RuleInput.toRule, fails] at made
    cases made
  · obtain ⟨⟨input, there, fails⟩, before⟩ := refused.getElem?
    obtain ⟨entry, found, rfl⟩ : ∃ entry, items[index]? = some entry ∧ .document entry = input := by
      simpa using there
    refine ⟨index, entry, failure, found, fails, fun earlier less => ?_⟩
    obtain ⟨input, rule, there, made⟩ := before earlier less
    obtain ⟨other, found, rfl⟩ : ∃ other, items[earlier]? = some other ∧
        .document other = input := by
      simpa using there
    exact ⟨other, rule, found, made⟩

theorem FirstInvalid.refused {items : List Document} {index : Nat} {entry : Document}
    {failure : Failure} (first : FirstInvalid items index entry failure) :
    Refused (items.map .document) index failure := by
  induction index generalizing items with
  | zero =>
      cases items with
      | nil => cases first.found
      | cons other rest =>
          obtain rfl : other = entry := by simpa using first.found
          exact .here first.invalid
  | succ index ih =>
      cases items with
      | nil => cases first.found
      | cons other rest =>
          obtain ⟨other', rule, found, made⟩ := first.least 0 (Nat.succ_pos index)
          obtain rfl : other = other' := by simpa using found
          refine .later made
            (ih ⟨by simpa using first.found, first.invalid, fun earlier less => ?_⟩)
          simpa using first.least (earlier + 1) (Nat.succ_lt_succ less)

namespace Engine

/-- The loads of documents, by what each comes to. -/
inductive Loads (evaluator : Evaluator) (collector : Option String) (items : List Document) :
    Built → Prop where
  | source (engine : Engine) :
      Loads evaluator collector items
        (let (result, engine) :=
          engine.loadFromSource evaluator collector (.ok (items.map .document))
        result.map (·, engine))
  | fetch (engine : Engine) {document : Document} (lists : document.Lists items) :
      Loads evaluator collector items
        (let (result, engine) :=
          engine.loadFromFetch evaluator collector (.ok (.document document))
        result.map (·, engine))
  | client (engine : Engine) {document : Document} (lists : document.Lists items) :
      Loads evaluator collector items
        (let (result, _, engine) := (Client.new evaluator collector).initializeByFetch engine
          fun engine => (.ok (.document document), engine)
        result.map (·, engine))

variable {evaluator : Evaluator} {collector : Option String} {items : List Document}

/-- Every load fails by the first entry that is no rule. -/
theorem Loads.eq_error {built : Built} (loads : Loads evaluator collector items built)
    {index : Nat} {failure : Failure} (refused : Refused (items.map .document) index failure) :
    built = .error (failure.ofRuleAt index) := by
  have parsed := parseRules_of_refused refused
  cases loads with
  | source engine =>
      simp only [loadFromSource, bind, Except.bind, parsed, finishLoad_of_error]
      rfl
  | fetch engine lists =>
      have brought := lists.rules_eq.trans parsed
      simp only [loadFromFetch, Fetched.rules, bind, Except.bind, brought, finishLoad_of_error]
      rfl
  | @client engine document lists =>
      have brought : Fetched.rules (.ok (.document document)) = .error (failure.ofRuleAt index) :=
        lists.rules_eq.trans parsed
      simp only [Client.initializeByFetch_new, Client.finish_of_error brought]
      rfl

/-- Among entries that are not all rules there is a first one that is none. Every load reports its
place and its issues exactly when its roles are not indivisible; if they are, every load lets the
fault of going through them pass. -/
theorem firstRefused_reported_iff (evaluator : Evaluator) (collector : Option String)
    (invalid : ∃ entry ∈ items, ∃ failure, Rule.ofDocument entry = .error failure) :
    (∃ index entry failure, FirstInvalid items index entry failure) ∧
    ∀ index entry failure, FirstInvalid items index entry failure →
      ((∃ issues, failure = .invalid Rule.modelName issues ∧
          ∀ built, Loads evaluator collector items built →
            built = .error (.invalidRule index issues)) ↔
        ¬ Rule.RolesIndivisible entry) ∧
      ∀ roles, Rule.GivesForRoles entry roles → roles.IsIndivisible →
        ∀ built, Loads evaluator collector items built →
          built = .error (.fault (.notIterable roles.kind)) := by
  refine ⟨exists_firstInvalid invalid, fun index entry failure first => ?_⟩
  have fails (built : Built) (loads : Loads evaluator collector items built) :=
    loads.eq_error first.refused
  constructor
  · constructor
    · rintro ⟨issues, rfl, -⟩ ⟨roles, gives, indivisible⟩
      cases first.invalid.symm.trans (Rule.ofDocument_of_indivisible gives indivisible)
    · intro divisible
      obtain ⟨issues, rfl⟩ := Rule.ofDocument_error_of_divisible first.invalid divisible
      exact ⟨issues, rfl, fails⟩
  · intro roles gives indivisible
    cases first.invalid.symm.trans (Rule.ofDocument_of_indivisible gives indivisible)
    exact fails

/-- The first entry is a rule, the second lacks its action, and the third one's roles are a number:
the second one is reported. -/
theorem firstRefused_reported_before_number :
    let items : List Document :=
      [.record [("resource", .text "d"), ("action", .text "a")],
       .record [("resource", .text "d")],
       .record [("resource", .text "d"), ("action", .text "a"), ("allowedRoles", .int 5)]]
    (∃ entry ∈ items, ∃ failure, Rule.ofDocument entry = .error failure) ∧
      ∀ built, Loads .standard none items built →
        built = .error (.invalidRule 1
          [⟨.missing, [.name "action"], .record [("resource", .text "d")]⟩]) := by
  intro items
  have invalid : ∃ entry ∈ items, ∃ failure, Rule.ofDocument entry = .error failure :=
    ⟨.record [("resource", .text "d")], by simp [items], _, rfl⟩
  have first : FirstInvalid items 1 (.record [("resource", .text "d")])
      (.invalid Rule.modelName
        [⟨.missing, [.name "action"], .record [("resource", .text "d")]⟩]) := by
    refine ⟨rfl, rfl, fun earlier less => ?_⟩
    obtain rfl : earlier = 0 := Nat.lt_one_iff.1 less
    exact ⟨_, _, rfl, rfl⟩
  have divisible : ¬ Rule.RolesIndivisible (.record [("resource", .text "d")]) := by
    rintro ⟨roles, ⟨members, name, same, named⟩, -⟩
    cases same
    cases named
  obtain ⟨-, reported⟩ := firstRefused_reported_iff .standard none invalid
  obtain ⟨issues, same, built⟩ := (reported _ _ _ first).1.2 divisible
  cases same
  exact ⟨invalid, built⟩

/-- An entry whose roles are a number is no rule, and a load of it fails without a report. -/
theorem not_reported_when_roles_are_number :
    ¬ ∀ items : List Document,
      (∃ entry ∈ items, ∃ failure, Rule.ofDocument entry = .error failure) →
      ∀ built, Loads .standard none items built →
        ∃ index issues, built = .error (.invalidRule index issues) := by
  intro always
  have number : Rule.ofDocument (.record [("resource", .text "d"), ("action", .text "a"),
      ("allowedRoles", .int 5)]) = .error (.fault (.notIterable "int")) := rfl
  obtain ⟨index, issues, reported⟩ := always _ ⟨_, List.mem_singleton_self _, _, number⟩ _
    (.source .initial)
  cases reported

end Engine

end AccessRules
