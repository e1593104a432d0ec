import Mathlib.Data.List.Nodup
import AccessRules.Proofs.Resolver.Decision

/-!
# The actions that are listed

A listing goes through the actions that the rules for the type mention, and decides each of them
as any other request. So it lists what can be done and nothing else: an action that can be done has
a rule that grants it, and that rule mentions the action (`Store.Coherent.mentioned_of_can`).

`distinct` keeps the first appearance of every action, whence the order of the labels
(`distinct_pairwise`), and a type gives different labels to different actions
(`permissionLabel_inj`), whence there are no duplicates.
-/

namespace AccessRules

namespace Resolver

/-! ### First appearances -/

@[simp] theorem mem_distinct {item : String} {items : List String} :
    item ∈ distinct items ↔ item ∈ items := by
  induction items with
  | nil => simp [distinct]
  | cons first rest ih =>
      by_cases same : item = first
      · simp [distinct, same]
      · simp [distinct, same, ih]

theorem distinct_nodup (items : List String) : (distinct items).Nodup := by
  induction items with
  | nil => exact List.nodup_nil
  | cons first rest ih =>
      refine List.nodup_cons.2 ⟨?_, ih.filter _⟩
      simp

/-- The items stand in the order of their first appearance. -/
theorem distinct_pairwise (items : List String) :
    (distinct items).Pairwise fun one other => items.idxOf one < items.idxOf other := by
  induction items with
  | nil => exact List.Pairwise.nil
  | cons first rest ih =>
      have behind : ∀ other ∈ (distinct rest).filter (· != first),
          (first :: rest).idxOf other = rest.idxOf other + 1 := by
        intro other among
        have differs : other ≠ first := by simpa using (List.mem_filter.1 among).2
        exact List.idxOf_cons_ne rest differs.symm
      refine List.pairwise_cons.2 ⟨?_, ?_⟩
      · intro other among
        rw [List.idxOf_cons_self, behind other among]
        exact Nat.succ_pos _
      · refine (ih.filter _).imp_of_mem ?_
        intro one other amongOne amongOther before
        rw [behind one amongOne, behind other amongOther]
        exact Nat.succ_lt_succ before

end Resolver

/-! ### Labels -/

@[simp] theorem permissionLabel_inj {type one other : String} :
    permissionLabel type one = permissionLabel type other ↔ one = other :=
  String.append_right_inj (type ++ ":")

/-- A document with a text is written as that text. -/
theorem Document.written_of_text? {document : Document} {name : String}
    (texted : document.text? = some name) : document.written = .ok name := by
  cases document with
  | text value => simpa [Document.text?] using texted
  | guarded value => simpa [Document.text?] using texted
  | _ => simp [Document.text?] at texted

/-! ### A listing decides -/

namespace Engine

/-- Deciding many actions tells of each, and grants those that can be done. -/
theorem grantedAmong_fst (engine : Engine) (service : Service) (subject : Subject)
    (resource : Resource) (actions : List String) :
    (engine.grantedAmong service subject resource actions).1 =
      actions.filter fun action => service.resolver.can subject resource (.text action) := by
  induction actions generalizing engine with
  | nil => rfl
  | cons action rest ih =>
      have decided : (engine.decide service subject resource (.text action)).1.allowed =
          service.resolver.can subject resource (.text action) := rfl
      rw [grantedAmong, List.filter_cons, ← decided]
      simp only [ih]

/-- The listing of an engine is the listing of the resolver. -/
theorem allowedActions_fst (engine : Engine) (service : Service) (subject : Subject)
    (resource : Resource) :
    (engine.allowedActions service subject resource).1 =
      service.resolver.allowedActions subject resource := by
  rw [allowedActions, Resolver.allowedActions, ← engine.grantedAmong_fst]

end Engine

/-- The actions that the rules for a type mention, with repetitions. -/
def mentioned (rules : List Rule) (type : Document) : List String :=
  (rules.filter fun rule => type.text? = some rule.resource).map Rule.action

variable {store : Store} {evaluator : Evaluator} {subject : Subject} {resource : Resource}

/-- What can be done is mentioned by the rule that grants it. -/
theorem Store.Coherent.mentioned_of_can (coherent : store.Coherent) {action : String}
    (can : (⟨store, evaluator⟩ : Resolver).can subject resource (.text action) = true) :
    action ∈ mentioned store.rules resource.type ∧ ∃ type, resource.type.text? = some type := by
  obtain ⟨index, rule, passes⟩ :=
    (coherent.settles evaluator subject resource (.text action)).allowed.1 can
  obtain ⟨typed, acted⟩ := passes.candidate
  refine ⟨List.mem_map.2 ⟨rule, List.mem_filter.2 ⟨?_, ?_⟩, ?_⟩, rule.resource, typed⟩
  · exact List.mem_of_getElem? passes.there
  · exact decide_eq_true typed
  · exact (Option.some.inj acted).symm

/-- The labels of a listing, by the actions that the store's rules mention. -/
theorem Store.Coherent.allowedActions_eq (coherent : store.Coherent) (evaluator : Evaluator)
    (subject : Subject) (resource : Resource) :
    (⟨store, evaluator⟩ : Resolver).allowedActions subject resource =
      ((Resolver.distinct (mentioned store.rules resource.type)).filter fun action =>
        (⟨store, evaluator⟩ : Resolver).can subject resource (.text action)).map
          (permissionLabel (resource.type.text?.getD "")) := by
  rw [Resolver.allowedActions, Resolver.actionsFor, coherent.forResource_eq, mentioned]

/-- The labels that are listed, against the decisions on single requests; `mentions` are the actions
that the rules for the type mention, in the order of the store. -/
structure Listed (labels : List String) (type : String) (mentions : List String)
    (can : String → Prop) : Prop where
  /-- A label is listed exactly when its action can be done, whether a rule mentions it or not. -/
  mem_iff : ∀ action, permissionLabel type action ∈ labels ↔ can action
  nodup : labels.Nodup
  form : ∀ label ∈ labels, ∃ action, label = permissionLabel type action
  /-- The labels stand in the order in which their actions are first mentioned. -/
  order : labels.Pairwise fun one other => ∃ first second,
    one = permissionLabel type first ∧ other = permissionLabel type second ∧
      second ∈ mentions ∧ mentions.idxOf first < mentions.idxOf second

theorem Store.Coherent.listed (coherent : store.Coherent) (evaluator : Evaluator)
    (subject : Subject) {type : String} (named : resource.type.written = .ok type) :
    Listed ((⟨store, evaluator⟩ : Resolver).allowedActions subject resource) type
      (mentioned store.rules resource.type) fun action =>
        (⟨store, evaluator⟩ : Resolver).can subject resource (.text action) = true := by
  -- A type without a text has no rules, so that its label does not matter.
  have labelled : (⟨store, evaluator⟩ : Resolver).allowedActions subject resource =
      ((Resolver.distinct (mentioned store.rules resource.type)).filter fun action =>
        (⟨store, evaluator⟩ : Resolver).can subject resource (.text action)).map
          (permissionLabel type) := by
    rw [coherent.allowedActions_eq]
    refine List.map_congr_left fun action among => ?_
    obtain ⟨-, name, texted⟩ := coherent.mentioned_of_can (List.mem_filter.1 among).2
    obtain rfl : name = type :=
      Except.ok.inj ((Document.written_of_text? texted).symm.trans named)
    rw [texted, Option.getD_some]
  rw [labelled]
  constructor
  case mem_iff =>
    intro action
    rw [List.mem_map]
    constructor
    · rintro ⟨other, among, same⟩
      obtain rfl := permissionLabel_inj.1 same
      exact (List.mem_filter.1 among).2
    · intro can
      obtain ⟨mention, -⟩ := coherent.mentioned_of_can can
      exact ⟨action, List.mem_filter.2 ⟨Resolver.mem_distinct.2 mention, can⟩, rfl⟩
  case nodup =>
    refine List.Nodup.map (fun one other same => permissionLabel_inj.1 same) ?_
    exact (Resolver.distinct_nodup _).filter _
  case form =>
    intro label among
    obtain ⟨action, -, rfl⟩ := List.mem_map.1 among
    exact ⟨action, rfl⟩
  case order =>
    rw [List.pairwise_map]
    refine ((Resolver.distinct_pairwise _).filter _).imp_of_mem ?_
    intro first second amongFirst amongSecond before
    exact ⟨first, second, rfl, rfl, Resolver.mem_distinct.1 (List.mem_filter.1 amongSecond).1,
      before⟩

/-- A listing of a resolver, over the rules of a new store and any that were added to it, against
the decisions of the same resolver. -/
theorem Engine.allowedActions_listed {origin : Nat} {inputs : List RuleInput} {first : Store}
    (made : Store.ofInputs origin inputs = .ok first) (operations : List Store.Operation)
    (evaluator : Evaluator) (collector : Option String) (engine : Engine) (subject : Subject)
    {resource : Resource} {type : String} (named : resource.type.written = .ok type) :
    Listed
      (engine.allowedActions ⟨⟨first.after operations, evaluator⟩, collector⟩ subject resource).1
      type (mentioned (first.rules ++ Store.accepted operations) resource.type) fun action =>
        (engine.decide ⟨⟨first.after operations, evaluator⟩, collector⟩ subject resource
          (.text action)).1.allowed = true := by
  have coherent := Store.coherent_of_ofInputs made operations
  rw [Engine.allowedActions_fst, ← Store.after_rules]
  exact coherent.listed evaluator subject named

/-- A type and actions with colons in them; of two rules for an action, the later one grants it. -/
theorem Engine.allowedActions_listed_with_colons :
    let guarded : Rule := ⟨"a:b", "c", some ["admin"], none, nofun⟩
    let nameless : Rule := ⟨"a:b", "", none, none, nofun⟩
    let operations : List Store.Operation := [.add (.rule ⟨"a:b", "c", none, none, nofun⟩)]
    let resolver : Resolver :=
      ⟨Store.after ⟨[guarded, nameless], 0, 0, none⟩ operations, .standard⟩
    let resource : Resource := ⟨.text "d1", .text "a:b", []⟩
    Store.ofInputs 0 [.rule guarded, .rule nameless] =
        .ok ⟨[guarded, nameless], 0, 0, none⟩ ∧
      (Document.text "a:b").written = .ok "a:b" ∧
      Listed (Engine.initial.allowedActions ⟨resolver, none⟩ ⟨.text "u1", [], []⟩ resource).1
        "a:b" ["c", "", "c"] fun action =>
          (Engine.initial.decide ⟨resolver, none⟩ ⟨.text "u1", [], []⟩ resource
            (.text action)).1.allowed = true := by
  intro guarded nameless operations resolver resource
  have made : Store.ofInputs 0 [.rule guarded, .rule nameless] =
      .ok ⟨[guarded, nameless], 0, 0, none⟩ := rfl
  have named : (Document.text "a:b").written = .ok "a:b" := rfl
  exact ⟨made, named, Engine.allowedActions_listed made operations .standard none .initial
    ⟨.text "u1", [], []⟩ named⟩

end AccessRules
