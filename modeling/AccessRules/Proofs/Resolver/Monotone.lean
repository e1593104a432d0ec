import AccessRules.Proofs.Resolver.Listing

/-!
# More rules grant more

A request is granted when some rule grants it (`Store.Coherent.can_iff`), so the answer depends on
the set of the rules alone: neither their order nor their number matters, nor do rules for other
requests, nor those whose conditions fail to evaluate on the way. Only the place that is reported
does.

**`Resolver.Built.grantsMore`** compares two resolvers by their rules, and a resolver with itself
after more was added to it: what was granted once is decided by the same rule ever after.
-/

namespace AccessRules

/-! ### A rule that grants -/

/-- The rule grants the request. -/
structure Rule.Grants (rule : Rule) (evaluator : Evaluator) (subject : Subject)
    (resource : Resource) (action : Document) : Prop where
  candidate : rule.IsCandidate resource action
  roles : rule.RolesPass subject
  condition : rule.ConditionPasses evaluator subject resource

/-- The rules are the same but for the order and the repetition of their roles. Their conditions
are the same documents, in kind and in value; equal conditions (`Rule.equal`) are not enough, as one
and a truth value are equal. -/
structure Rule.Alike (one other : Rule) : Prop where
  resource : one.resource = other.resource
  action : one.action = other.action
  roles : Option.Rel (fun roles others => ∀ role, role ∈ roles ↔ role ∈ others)
    one.allowedRoles other.allowedRoles
  condition : one.condition = other.condition

variable {store other : Store} {evaluator : Evaluator} {subject : Subject} {resource : Resource}
  {action : Document}

theorem Rule.Alike.refl (rule : Rule) : rule.Alike rule where
  resource := rfl
  action := rfl
  roles := by
    cases rule.allowedRoles with
    | none => exact .none
    | some roles => exact .some fun _ => Iff.rfl
  condition := rfl

theorem Rule.Alike.isCandidate {one other : Rule} (alike : one.Alike other)
    (candidate : one.IsCandidate resource action) : other.IsCandidate resource action := by
  rwa [IsCandidate, alike.resource, alike.action] at candidate

theorem Rule.Alike.rolesPass {one other : Rule} (alike : one.Alike other)
    (passes : one.RolesPass subject) : other.RolesPass subject := by
  intro others asked
  have roles := alike.roles
  rw [Option.mem_def.1 asked] at roles
  cases stated : one.allowedRoles with
  | none =>
      rw [stated] at roles
      cases roles
  | some roles' =>
      rw [stated] at roles
      obtain ⟨same⟩ := roles
      obtain ⟨role, among, held⟩ := passes roles' stated
      exact ⟨role, (same role).1 among, held⟩

theorem Rule.Alike.grants {one other : Rule} (alike : one.Alike other)
    (grants : one.Grants evaluator subject resource action) :
    other.Grants evaluator subject resource action where
  candidate := alike.isCandidate grants.candidate
  roles := alike.rolesPass grants.roles
  condition := by
    have condition := grants.condition
    rwa [Rule.ConditionPasses, alike.condition] at condition

/-! ### The set of the rules -/

/-- A request is granted when some rule of the store grants it, wherever it stands. -/
theorem Store.Coherent.can_iff (coherent : store.Coherent) :
    (⟨store, evaluator⟩ : Resolver).can subject resource action = true ↔
      ∃ rule ∈ store.rules, rule.Grants evaluator subject resource action := by
  rw [Resolver.can, (coherent.settles evaluator subject resource action).allowed]
  constructor
  · rintro ⟨index, rule, there, candidate, roles, condition⟩
    exact ⟨rule, List.mem_of_getElem? there, candidate, roles, condition⟩
  · rintro ⟨rule, among, candidate, roles, condition⟩
    obtain ⟨index, there⟩ := List.mem_iff_getElem?.1 among
    exact ⟨index, rule, there, candidate, roles, condition⟩

/-- Every rule for the request among the rules is among the others as well. -/
def Covered (rules others : List Rule) (resource : Resource) (action : Document) : Prop :=
  ∀ rule ∈ rules, rule.IsCandidate resource action → ∃ other ∈ others, rule.Alike other

/-- The same for every rule for the type of the resource. -/
def CoveredAll (rules others : List Rule) (resource : Resource) : Prop :=
  ∀ rule ∈ rules, resource.type.text? = some rule.resource → ∃ other ∈ others, rule.Alike other

/-- The others are the rules in another order, with some repeated or no longer repeated, and with
rules for other types or actions coming or going. -/
inductive Rearranged (resource : Resource) (action : Document) : List Rule → List Rule → Prop where
  | permuted {rules others : List Rule} (same : rules.Perm others) :
      Rearranged resource action rules others
  | repeated {before after : List Rule} {rule : Rule} (among : rule ∈ before ++ after) :
      Rearranged resource action (before ++ after) (before ++ rule :: after)
  | unrelated {before after : List Rule} {rule : Rule}
      (apart : ¬ rule.IsCandidate resource action) :
      Rearranged resource action (before ++ after) (before ++ rule :: after)
  | back {rules others : List Rule} (forth : Rearranged resource action rules others) :
      Rearranged resource action others rules
  | onward {rules others more : List Rule} (first : Rearranged resource action rules others)
      (second : Rearranged resource action others more) : Rearranged resource action rules more

theorem CoveredAll.covered {rules others : List Rule} (covered : CoveredAll rules others resource)
    (action : Document) : Covered rules others resource action :=
  fun rule among candidate => covered rule among candidate.1

/-- Rearranging keeps the set of the rules for the request. -/
theorem Rearranged.mem_iff {rules others : List Rule}
    (rearranged : Rearranged resource action rules others) {rule : Rule}
    (candidate : rule.IsCandidate resource action) : rule ∈ rules ↔ rule ∈ others := by
  induction rearranged with
  | permuted same => exact same.mem_iff
  | @repeated before after twin among =>
      rw [List.mem_append, List.mem_append, List.mem_cons]
      constructor
      · rintro (front | behind)
        · exact Or.inl front
        · exact Or.inr (Or.inr behind)
      · rintro (front | same | behind)
        · exact Or.inl front
        · exact List.mem_append.1 (same ▸ among)
        · exact Or.inr behind
  | @unrelated before after stranger apart =>
      have differs : rule ≠ stranger := fun same => apart (same ▸ candidate)
      simp [differs]
  | back _ ih => exact ih.symm
  | onward _ _ first second => exact first.trans second

theorem Rearranged.covered {rules others : List Rule}
    (rearranged : Rearranged resource action rules others) :
    Covered rules others resource action :=
  fun rule among candidate => ⟨rule, (rearranged.mem_iff candidate).1 among, .refl rule⟩

theorem Store.Coherent.can_of_covered (coherent : store.Coherent) (coherent' : other.Coherent)
    (covered : Covered store.rules other.rules resource action)
    (can : (⟨store, evaluator⟩ : Resolver).can subject resource action = true) :
    (⟨other, evaluator⟩ : Resolver).can subject resource action = true := by
  obtain ⟨rule, among, grants⟩ := coherent.can_iff.1 can
  obtain ⟨twin, there, alike⟩ := covered rule among grants.candidate
  exact coherent'.can_iff.2 ⟨twin, there, alike.grants grants⟩

/-- A listing grows with the rules for the type. -/
theorem Store.Coherent.allowedActions_subset (coherent : store.Coherent)
    (coherent' : other.Coherent) (covered : CoveredAll store.rules other.rules resource) :
    (⟨store, evaluator⟩ : Resolver).allowedActions subject resource ⊆
      (⟨other, evaluator⟩ : Resolver).allowedActions subject resource := by
  intro label listed
  rw [coherent.allowedActions_eq] at listed
  obtain ⟨action, among, rfl⟩ := List.mem_map.1 listed
  have can := coherent.can_of_covered coherent' (covered.covered _) (List.mem_filter.1 among).2
  obtain ⟨mention, -⟩ := coherent'.mentioned_of_can can
  rw [coherent'.allowedActions_eq]
  exact List.mem_map_of_mem (List.mem_filter.2 ⟨Resolver.mem_distinct.2 mention, can⟩)

/-! ### Rules that are added later -/

/-- Operations leave the rules of before in front of those that they add. -/
theorem Store.Coherent.view_after (coherent : store.Coherent) (operations : List Operation) :
    (store.after operations).view = store.view ++ accepted operations := by
  rw [(after_coherent coherent operations).view_eq, coherent.view_eq, after_rules]

/-- Rules at the end bring candidates at the end. -/
theorem Store.matching_append {store grown : Store} {more : List Rule}
    (behind : grown.view = store.view ++ more) (type action : Document) :
    ∃ later, grown.matching type action = store.matching type action ++ later := by
  rw [matching, matching, behind, List.zipIdx_append, List.filter_append, List.map_append]
  exact ⟨_, rfl⟩

/-- A request that is granted is decided alike, with the same reports, however many rules stand
behind. -/
theorem Resolver.examine_append {grown : Store} {more : List Rule}
    (behind : grown.view = store.view ++ more)
    (granted : (⟨store, evaluator⟩ : Resolver).can subject resource action = true) :
    (⟨grown, evaluator⟩ : Resolver).examine subject resource action =
      (⟨store, evaluator⟩ : Resolver).examine subject resource action := by
  obtain ⟨later, matched⟩ := Store.matching_append behind resource.type action
  obtain ⟨before, index, rule, after, split, untaken, taken, -⟩ | ⟨-, denied⟩ :=
    scan_cases evaluator subject resource (store.matching resource.type action)
  · rw [examine, examine, matched, split, List.append_assoc, List.cons_append,
      scan_of_taken untaken taken, scan_of_taken untaken taken]
  · rw [can, decide, examine, denied] at granted
    cases granted

/-- The rule that is named by the decision is the one that grants. -/
theorem Store.Coherent.exists_winner (coherent : store.Coherent)
    (granted : (⟨store, evaluator⟩ : Resolver).can subject resource action = true) :
    ∃ winner rule, ((⟨store, evaluator⟩ : Resolver).decide subject resource action).matchedRule =
        some winner ∧
      store.rules[winner]? = some rule ∧ rule.Grants evaluator subject resource action := by
  have settles := coherent.settles evaluator subject resource action
  obtain ⟨index, rule, passes⟩ := settles.allowed.1 granted
  cases named : ((⟨store, evaluator⟩ : Resolver).decide subject resource action).matchedRule with
  | none => exact absurd passes (settles.unmatched.1 named index rule)
  | some winner =>
      obtain ⟨⟨rule, there, candidate, roles, condition⟩, -⟩ := (settles.matched winner).1 named
      exact ⟨winner, rule, rfl, there, candidate, roles, condition⟩

/-! ### Resolvers -/

namespace Resolver

/-- A resolver with the standard evaluator over a store made from inputs, on which any operations
were performed since. -/
inductive Built : Resolver → Prop where
  | intro {origin : Nat} {inputs : List RuleInput} {first : Store}
      (made : Store.ofInputs origin inputs = .ok first) (operations : List Store.Operation) :
      Built ⟨first.after operations, .standard⟩

/-- The rules that the resolver shows. -/
def rules (resolver : Resolver) : List Rule := resolver.store.view

/-- Add inputs one after another; those that are no rules are refused. -/
def adding (resolver : Resolver) (inputs : List RuleInput) : Resolver :=
  { resolver with store := resolver.store.after (inputs.map .add) }

/-- What the answers of `one` say about those of `other`, and about its own later ones. -/
structure GrantsMore (one other : Resolver) (subject : Subject) (resource : Resource) : Prop where
  /-- What is granted stays granted by a resolver that has every rule for the request. -/
  can : ∀ action, Covered one.rules other.rules resource action →
    one.can subject resource action = true → other.can subject resource action = true
  /-- The order, repetitions and rules for other requests do not matter. -/
  rearranged : ∀ action, Rearranged resource action one.rules other.rules →
    one.can subject resource action = other.can subject resource action
  listed : CoveredAll one.rules other.rules resource →
    one.allowedActions subject resource ⊆ other.allowedActions subject resource
  /-- Whatever is added to a resolver, a decision that grants stays the same, and the place that it
  names keeps the rule that granted. -/
  stays : ∀ action inputs, one.can subject resource action = true →
    (one.adding inputs).decide subject resource action = one.decide subject resource action ∧
    ∃ winner rule, (one.decide subject resource action).matchedRule = some winner ∧
      one.rules[winner]? = some rule ∧ (one.adding inputs).rules[winner]? = some rule ∧
      rule.Grants .standard subject resource action

theorem Built.grantsMore {one other : Resolver} (built : one.Built) (built' : other.Built)
    (subject : Subject) (resource : Resource) : GrantsMore one other subject resource := by
  obtain ⟨made, operations⟩ := built
  obtain ⟨made', operations'⟩ := built'
  have coherent := Store.coherent_of_ofInputs made operations
  have coherent' := Store.coherent_of_ofInputs made' operations'
  constructor
  case can =>
    intro action covered
    rw [rules, rules, coherent.view_eq, coherent'.view_eq] at covered
    exact coherent.can_of_covered coherent' covered
  case rearranged =>
    intro action rearranged
    rw [rules, rules, coherent.view_eq, coherent'.view_eq] at rearranged
    rw [Bool.eq_iff_iff]
    exact ⟨coherent.can_of_covered coherent' rearranged.covered,
      coherent'.can_of_covered coherent rearranged.back.covered⟩
  case listed =>
    intro covered
    rw [rules, rules, coherent.view_eq, coherent'.view_eq] at covered
    exact coherent.allowedActions_subset coherent' covered
  case stays =>
    intro action inputs granted
    have behind := coherent.view_after (inputs.map .add)
    obtain ⟨winner, rule, named, there, grants⟩ := coherent.exists_winner granted
    rw [← coherent.view_eq] at there
    refine ⟨congrArg Verdict.decision (examine_append behind granted), winner, rule, named, there,
      ?_, grants⟩
    obtain ⟨inside, -⟩ := List.getElem?_eq_some_iff.1 there
    rw [rules, adding, behind, List.getElem?_append_left inside]
    exact there

/-- A rule that stands again behind one whose condition fails to evaluate, with its role repeated,
and in front of a rule for another type. -/
theorem Built.grantsMore_past_broken_condition :
    let one : Resolver :=
      ⟨⟨[⟨"document", "read", some ["editor", "viewer"], none, nofun⟩], 0, 0, none⟩, .standard⟩
    let other : Resolver :=
      ⟨⟨[⟨"document", "read", none, some (.text "owner"), nofun⟩,
        ⟨"document", "read", some ["viewer", "editor", "viewer"], none, nofun⟩,
        ⟨"invoice", "read", none, none, nofun⟩], 1, 0, none⟩, .standard⟩
    let subject : Subject := ⟨.text "u1", [.text "viewer"], []⟩
    let resource : Resource := ⟨.text "d1", .text "document", []⟩
    one.Built ∧ other.Built ∧ Covered one.rules other.rules resource (.text "read") ∧
      one.can subject resource (.text "read") = true ∧
      other.can subject resource (.text "read") = true := by
  intro one other subject resource
  have made : Store.ofInputs 0 (one.rules.map .rule) = .ok one.store := rfl
  have made' : Store.ofInputs 1 (other.rules.map .rule) = .ok other.store := rfl
  have built : one.Built := .intro made []
  have built' : other.Built := .intro made' []
  have covered : Covered one.rules other.rules resource (.text "read") := by
    intro rule among _
    obtain rfl := List.mem_singleton.1 among
    refine ⟨⟨"document", "read", some ["viewer", "editor", "viewer"], none, nofun⟩, ?_, rfl, rfl,
      ?_, rfl⟩
    · exact List.mem_cons_of_mem _ List.mem_cons_self
    · exact .some fun role => by simp [or_left_comm]
  have granted : one.can subject resource (.text "read") = true := rfl
  exact ⟨built, built', covered, granted,
    (built.grantsMore built' subject resource).can _ covered granted⟩

-- Alike rules have the same condition, which is more than one that compares equal: the numbers and
-- the truth values do, and only a truth value is a condition by itself.
example :
    let truth : Rule := ⟨"document", "read", none, some (.bool true), nofun⟩
    let number : Rule := ⟨"document", "read", none, some (.int 1), nofun⟩
    let reads (rule : Rule) : Bool := (⟨⟨[rule], 0, 0, none⟩, .standard⟩ : Resolver).can
      ⟨.text "u1", [], []⟩ ⟨.text "d1", .text "document", []⟩ (.text "read")
    truth.equal number = true ∧ reads truth = true ∧ reads number = false :=
  ⟨rfl, rfl, rfl⟩

end Resolver

end AccessRules
