import AccessRules.Engine
import AccessRules.Proofs.Resolver.Scan
import AccessRules.Proofs.Store.History

/-!
# What is decided on a request

The decision on a request is settled by the rules of the store and the evaluator alone. It is
stated in terms of places in the store: `PassesAt` says which places grant the request, and
`Decision.Settles` reads every part of a decision off them.

A scan runs over the candidates and counts them, whereas a place counts all rules. The two meet in
`Store.Coherent.countPlaces_eq`, and in the fact that the candidates are in the order of their
places, so that those tried before the winner are the ones at smaller places (`countP_upTo`).
-/

namespace AccessRules

/-- The rule is one for the type of the resource and for the action. -/
def Rule.IsCandidate (rule : Rule) (resource : Resource) (action : Document) : Prop :=
  resource.type.text? = some rule.resource ∧ action.text? = some rule.action
  deriving Decidable

/-- The rule at the place grants the request. -/
structure PassesAt (rules : List Rule) (evaluator : Evaluator) (subject : Subject)
    (resource : Resource) (action : Document) (index : Nat) (rule : Rule) : Prop where
  there : rules[index]? = some rule
  candidate : rule.IsCandidate resource action
  roles : rule.RolesPass subject
  condition : rule.ConditionPasses evaluator subject resource

/-- How many of the rules are as stated, their places considered. -/
def countPlaces (rules : List Rule) (stated : Nat → Rule → Prop)
    [∀ index rule, Decidable (stated index rule)] : Nat :=
  rules.zipIdx.countP fun entry => stated entry.2 entry.1

/-- The place is not behind the one that granted the request, if any did. -/
def Decision.Tried (decision : Decision) (index : Nat) : Prop :=
  ∀ winner ∈ decision.matchedRule, index ≤ winner
  deriving Decidable

/-- The decision that the rules, tried in order by the evaluator, call for. -/
structure Decision.Settles (decision : Decision) (rules : List Rule) (evaluator : Evaluator)
    (subject : Subject) (resource : Resource) (action : Document) : Prop where
  /-- The request is allowed exactly when some rule grants it. -/
  allowed : decision.allowed = true ↔
    ∃ index rule, PassesAt rules evaluator subject resource action index rule
  /-- The rule that is named grants the request, and none at a smaller place does. -/
  matched : ∀ winner, decision.matchedRule = some winner ↔
    (∃ rule, PassesAt rules evaluator subject resource action winner rule) ∧
      ∀ index rule, PassesAt rules evaluator subject resource action index rule → winner ≤ index
  unmatched : decision.matchedRule = none ↔
    ∀ index rule, ¬ PassesAt rules evaluator subject resource action index rule
  /-- The candidates up to the rule that is named are counted, or all of them. -/
  evaluated : decision.evaluatedRules = countPlaces rules fun index rule =>
    rule.IsCandidate resource action ∧ decision.Tried index
  /-- Among them, those that let the subject in and then break on their condition. -/
  errors : decision.conditionErrors = countPlaces rules fun index rule =>
    rule.IsCandidate resource action ∧ decision.Tried index ∧
      rule.RolesPass subject ∧ rule.ConditionBreaks evaluator subject resource
  reason : decision.reason = match decision.matchedRule with
    | some winner => "Rule " ++ Number.writtenInt winner ++ " granted " ++
        permissionLabel (resource.type.text?.getD "") (action.text?.getD "")
    | none =>
        if decision.evaluatedRules = 0 then "No rule matched resource and action"
        else "No matching rule granted access"

/-! ### Candidates and places -/

variable {store : Store} {evaluator : Evaluator} {subject : Subject} {resource : Resource}
  {action : Document}

/-- The rules that grant a request are the candidates that pass when they are tried. -/
theorem Store.Coherent.passesAt_iff (coherent : store.Coherent) {index : Nat} {rule : Rule} :
    PassesAt store.rules evaluator subject resource action index rule ↔
      (index, rule) ∈ store.matching resource.type action ∧
        (rule.attempt evaluator subject resource).isPassed = true := by
  rw [coherent.mem_matching, Rule.attempt_isPassed_iff]
  constructor
  · rintro ⟨there, candidate, roles, condition⟩
    exact ⟨⟨there, candidate⟩, roles, condition⟩
  · rintro ⟨⟨there, candidate⟩, roles, condition⟩
    exact ⟨there, candidate, roles, condition⟩

/-- Counting candidates is counting the places of candidates. -/
theorem Store.Coherent.countPlaces_eq (coherent : store.Coherent)
    (stated : Nat → Rule → Prop) [∀ index rule, Decidable (stated index rule)] :
    (countPlaces store.rules fun index rule =>
        rule.IsCandidate resource action ∧ stated index rule) =
      (store.matching resource.type action).countP fun entry => stated entry.1 entry.2 := by
  rw [Store.matching, coherent.view_eq, List.countP_map, List.countP_filter, countPlaces]
  refine List.countP_congr fun entry _ => ?_
  simp [Rule.isFor_iff, Rule.IsCandidate, and_comm]

/-- A winner among entries in the order of their places: those before it are at smaller places,
those behind it at greater ones. -/
theorem places_around {before after : List (Nat × Rule)} {winner : Nat} {rule : Rule}
    (ordered : (before ++ (winner, rule) :: after).Pairwise fun one other => one.1 < other.1) :
    (∀ entry ∈ before, entry.1 < winner) ∧ ∀ entry ∈ after, winner < entry.1 := by
  obtain ⟨-, behind, across⟩ := List.pairwise_append.1 ordered
  exact ⟨fun entry among => across entry among _ List.mem_cons_self,
    (List.pairwise_cons.1 behind).1⟩

/-- What stands up to the winner stands before it or is the winner. -/
theorem filter_upTo {before after : List (Nat × Rule)} {winner : Nat} {rule : Rule}
    (ordered : (before ++ (winner, rule) :: after).Pairwise fun one other => one.1 < other.1)
    (stated : Nat × Rule → Bool) :
    (before ++ (winner, rule) :: after).filter (fun entry => entry.1 ≤ winner && stated entry) =
      before.filter stated ++ if stated (winner, rule) then [(winner, rule)] else [] := by
  obtain ⟨smaller, greater⟩ := places_around ordered
  have upTo : before.filter (fun entry => decide (entry.1 ≤ winner) && stated entry) =
      before.filter stated :=
    List.filter_congr fun entry among => by simp [Nat.le_of_lt (smaller entry among)]
  have behind : after.filter (fun entry => decide (entry.1 ≤ winner) && stated entry) = [] :=
    List.filter_eq_nil_iff.2 fun entry among => by simp [Nat.not_le.2 (greater entry among)]
  rw [List.filter_append, List.filter_cons, upTo, behind]
  simp

/-- What is counted up to the winner is counted before it and at it. -/
theorem countP_upTo {before after : List (Nat × Rule)} {winner : Nat} {rule : Rule}
    (ordered : (before ++ (winner, rule) :: after).Pairwise fun one other => one.1 < other.1)
    (stated : Nat × Rule → Bool) :
    (before ++ (winner, rule) :: after).countP (fun entry => entry.1 ≤ winner && stated entry) =
      before.countP stated + if stated (winner, rule) then 1 else 0 := by
  rw [List.countP_eq_length_filter, filter_upTo ordered, List.length_append,
    List.countP_eq_length_filter]
  split <;> rfl

/-- The reports are counted by the candidates that let the subject in and then break. -/
theorem length_reportsOf (entries : List (Nat × Rule)) :
    (reportsOf evaluator subject resource entries).length = entries.countP fun entry =>
      entry.2.RolesPass subject ∧ entry.2.ConditionBreaks evaluator subject resource := by
  rw [reportsOf, List.length_filterMap_eq_countP]
  refine List.countP_congr fun entry _ => ?_
  rw [Rule.attempt_report?_iff, decide_eq_true_iff]

/-! ### The two endings of a scan -/

/-- The decision that grants a request by the first candidate that passes. -/
theorem Store.Coherent.settles_grant (coherent : store.Coherent) {before after : List (Nat × Rule)}
    {winner : Nat} {rule : Rule}
    (split : store.matching resource.type action = before ++ (winner, rule) :: after)
    (untaken : ∀ entry ∈ before, (entry.2.attempt evaluator subject resource).isPassed = false)
    (taken : (rule.attempt evaluator subject resource).isPassed = true) :
    (Decision.grant winner rule (before.length + 1)
        (reportsOf evaluator subject resource before).length).Settles
      store.rules evaluator subject resource action := by
  have ordered := matching_pairwise store resource.type action
  rw [split] at ordered
  have grants : PassesAt store.rules evaluator subject resource action winner rule :=
    coherent.passesAt_iff.2 ⟨by simp [split], taken⟩
  have least : ∀ index other, PassesAt store.rules evaluator subject resource action index other →
      winner ≤ index := by
    intro index other passes
    obtain ⟨among, passed⟩ := coherent.passesAt_iff.1 passes
    rw [split, List.mem_append, List.mem_cons] at among
    rcases among with earlier | same | later
    · simp [untaken _ earlier] at passed
    · exact Nat.le_of_eq (congrArg Prod.fst same).symm
    · exact Nat.le_of_lt ((places_around ordered).2 _ later)
  have tried (index : Nat) : Decision.Tried (.grant winner rule (before.length + 1)
      (reportsOf evaluator subject resource before).length) index ↔ index ≤ winner := by
    simp [Decision.Tried, Decision.grant]
  constructor
  case allowed => exact ⟨fun _ => ⟨winner, rule, grants⟩, fun _ => rfl⟩
  case matched =>
    intro other
    constructor
    · intro named
      obtain rfl := Option.some.inj named
      exact ⟨⟨rule, grants⟩, least⟩
    · rintro ⟨⟨rule', grants'⟩, least'⟩
      exact congrArg some (Nat.le_antisymm (least other rule' grants') (least' winner rule grants))
  case unmatched =>
    constructor
    · intro unnamed
      cases unnamed
    · intro nobody
      exact absurd grants (nobody winner rule)
  case evaluated =>
    simp only [tried]
    rw [coherent.countPlaces_eq, split]
    have counted := countP_upTo ordered fun _ => true
    simpa [Decision.grant] using counted.symm
  case errors =>
    simp only [tried]
    rw [coherent.countPlaces_eq, split]
    have counted := countP_upTo ordered fun entry =>
      entry.2.RolesPass subject ∧ entry.2.ConditionBreaks evaluator subject resource
    -- The winner is among those tried, but has nothing to report.
    have silent : ¬ (rule.RolesPass subject ∧ rule.ConditionBreaks evaluator subject resource) := by
      rw [← Rule.attempt_report?_iff, Trial.report?_of_isPassed taken]
      simp
    simp only [silent, decide_false] at counted
    simpa [Decision.grant, length_reportsOf] using counted.symm
  case reason =>
    obtain ⟨typed, acted⟩ := grants.candidate
    simp [Decision.grant, typed, acted]

/-- The decision that denies a request because no candidate passes. -/
theorem Store.Coherent.settles_deny (coherent : store.Coherent)
    (untaken : ∀ entry ∈ store.matching resource.type action,
      (entry.2.attempt evaluator subject resource).isPassed = false) :
    (Decision.deny (store.matching resource.type action).length
        (reportsOf evaluator subject resource (store.matching resource.type action)).length).Settles
      store.rules evaluator subject resource action := by
  have nobody : ∀ index rule,
      ¬ PassesAt store.rules evaluator subject resource action index rule := by
    intro index rule passes
    obtain ⟨among, passed⟩ := coherent.passesAt_iff.1 passes
    simp [untaken _ among] at passed
  constructor
  case allowed =>
    constructor
    · intro allowed
      cases allowed
    · rintro ⟨index, rule, passes⟩
      exact absurd passes (nobody index rule)
  case matched =>
    intro winner
    constructor
    · intro named
      cases named
    · rintro ⟨⟨rule, passes⟩, -⟩
      exact absurd passes (nobody winner rule)
  case unmatched => exact ⟨fun _ => nobody, fun _ => rfl⟩
  case evaluated =>
    rw [coherent.countPlaces_eq]
    simp [Decision.deny, Decision.Tried]
  case errors =>
    rw [coherent.countPlaces_eq]
    simp [Decision.deny, Decision.Tried, length_reportsOf]
  case reason => rfl

/-- Whatever the scan comes to, the decision is the one that the rules call for. -/
theorem Store.Coherent.settles (coherent : store.Coherent) (evaluator : Evaluator)
    (subject : Subject) (resource : Resource) (action : Document) :
    ((⟨store, evaluator⟩ : Resolver).decide subject resource action).Settles
      store.rules evaluator subject resource action := by
  rw [Resolver.decide, Resolver.examine]
  obtain ⟨before, winner, rule, after, split, untaken, taken, ended⟩ | ⟨untaken, ended⟩ :=
    scan_cases evaluator subject resource (store.matching resource.type action)
  · rw [ended]
    exact coherent.settles_grant split untaken taken
  · rw [ended]
    exact coherent.settles_deny untaken

/-- A resolver over the rules of a new store, to which any more were added, decides as those rules
call for: by the standard evaluator or by any other, also by one that calls a condition satisfied
and reports an error on it. -/
theorem Engine.decide_settles {origin : Nat} {inputs : List RuleInput} {first : Store}
    (made : Store.ofInputs origin inputs = .ok first) (operations : List Store.Operation)
    (evaluator : Evaluator) (collector : Option String) (engine : Engine) (subject : Subject)
    (resource : Resource) (action : Document) :
    (engine.decide ⟨⟨first.after operations, evaluator⟩, collector⟩ subject resource
        action).1.Settles
      (first.rules ++ Store.accepted operations) evaluator subject resource action := by
  have coherent := Store.coherent_of_ofInputs made operations
  rw [← Store.after_rules]
  exact coherent.settles evaluator subject resource action

/-- A satisfied condition with an error, before a rule without a condition that was added later. -/
theorem Engine.decide_settles_behind_error :
    let guest : Rule := ⟨"document", "read", some ["viewer"],
      some (.object [(.text "var", .text "subject.roles.5")]), nofun⟩
    let anyone : Rule := ⟨"document", "read", none, none, nofun⟩
    let evaluator : Evaluator :=
      ⟨fun condition _ _ => ⟨true, some (Condition.malformed condition)⟩, false⟩
    Store.ofInputs 0 [.rule guest] = .ok ⟨[guest], 0, 0, none⟩ ∧
      (Engine.initial.decide
        ⟨⟨Store.after ⟨[guest], 0, 0, none⟩ [.all, .add (.rule anyone)], evaluator⟩, none⟩
        ⟨.text "u1", [.text "viewer"], []⟩ ⟨.text "d1", .text "document", []⟩
        (.text "read")).1.Settles [guest, anyone] evaluator
        ⟨.text "u1", [.text "viewer"], []⟩ ⟨.text "d1", .text "document", []⟩
        (.text "read") := by
  intro guest anyone evaluator
  have made : Store.ofInputs 0 [.rule guest] = .ok ⟨[guest], 0, 0, none⟩ := rfl
  exact ⟨made, Engine.decide_settles made [.all, .add (.rule anyone)] evaluator none .initial
    _ _ _⟩

end AccessRules
