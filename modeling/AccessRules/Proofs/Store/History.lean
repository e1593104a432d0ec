import AccessRules.Store

/-!
# The history of a store

A store keeps a second copy of its rules: the snapshot that it gave last. Whoever adds a rule has
to drop the copy and whoever reads may make it again, so this module follows both through any run
of operations.

* `Coherent` — the invariant of one state: the snapshot that is kept is of the rules of now, and it
  carries a number that no later snapshot will get;
* `Outlives` — the invariant of a past: what a snapshot given once still says of the store, however
  many operations later;
* `perform_coherent`, `Outlives.perform` — one operation preserves them, `after_coherent` and
  `Outlives.after` any number; `coherent_of_ofInputs` starts the first at a new store;
* `after_history` — everything that a run of operations can observe, from the two invariants.
-/

namespace AccessRules.Store

/-- The rules that operations add, in order: those that the added inputs describe. -/
def accepted (operations : List Operation) : List Rule :=
  operations.filterMap fun operation => match operation with
    | .add input => input.toRule.toOption
    | _ => none

@[simp] theorem accepted_nil : accepted [] = [] := rfl

theorem accepted_cons (operation : Operation) (rest : List Operation) :
    accepted (operation :: rest) = accepted [operation] ++ accepted rest := by
  rw [← List.singleton_append]
  exact List.filterMap_append

@[simp] theorem after_nil (store : Store) : store.after [] = store := rfl

@[simp] theorem after_cons (store : Store) (operation : Operation) (rest : List Operation) :
    store.after (operation :: rest) = (store.perform operation).2.after rest := rfl

/-! ### One operation -/

/-- What an operation does to a store: it adds a rule and drops the snapshot, or it leaves the
rules as they are and the snapshot of now behind, or it leaves everything as it is. -/
theorem perform_cases (store : Store) (operation : Operation) :
    (∃ rule, accepted [operation] = [rule] ∧
      (store.perform operation).2 = { store with rules := store.rules ++ [rule], cached := none }) ∨
    (accepted [operation] = [] ∧ (store.perform operation).2 = store.all.2) ∨
    (accepted [operation] = [] ∧ (store.perform operation).2 = store) := by
  cases operation with
  | add input =>
      cases made : input.toRule with
      | ok rule =>
          refine Or.inl ⟨rule, ?_, ?_⟩
          · simp [accepted, made, Except.toOption]
          · simp [perform, add, made, bind, Except.bind, pure, Except.pure]
      | error failure =>
          refine Or.inr (Or.inr ⟨?_, ?_⟩)
          · simp [accepted, made, Except.toOption]
          · simp [perform, add, made, bind, Except.bind]
  | size => exact Or.inr (Or.inr ⟨rfl, rfl⟩)
  | all => exact Or.inr (Or.inl ⟨rfl, rfl⟩)
  | iterate => exact Or.inr (Or.inl ⟨rfl, rfl⟩)
  | forResource type => exact Or.inr (Or.inl ⟨rfl, rfl⟩)
  | matching type action => exact Or.inr (Or.inl ⟨rfl, rfl⟩)

/-- An input that is no rule is refused, and the store stays as it is, its snapshot included. -/
theorem perform_add_error {store : Store} {input : RuleInput} {failure : Failure}
    (refused : input.toRule = .error failure) :
    store.perform (.add input) = (.refused failure, store) := by
  simp [perform, add, refused, bind, Except.bind]

/-! ### The snapshot of now -/

/-- The snapshot that is kept, if any, is of the rules of now, belongs to the store and was numbered
before the next one. -/
structure Coherent (store : Store) : Prop where
  current : ∀ kept ∈ store.cached, kept.rules = store.rules
  own : ∀ kept ∈ store.cached, kept.origin = store.origin
  numbered : ∀ kept ∈ store.cached, kept.serial < store.made

theorem coherent_of_cached_eq_none {store : Store} (dropped : store.cached = none) :
    store.Coherent := by
  constructor <;> simp [dropped]

/-- A snapshot that is kept is given again. -/
theorem all_of_cached {store : Store} {seen : Snapshot} (kept : store.cached = some seen) :
    store.all.1 = seen := by
  rw [all, kept]

/-- Reading leaves the snapshot behind that was read. -/
theorem all_cached (store : Store) : store.all.2.cached = some store.all.1 := by
  cases kept : store.cached with
  | none => simp [all, kept]
  | some snapshot => simp [all, kept]

@[simp] theorem all_rules (store : Store) : store.all.2.rules = store.rules := by
  cases kept : store.cached <;> simp [all, kept]

@[simp] theorem all_origin (store : Store) : store.all.2.origin = store.origin := by
  cases kept : store.cached <;> simp [all, kept]

/-- The snapshot of now is of the rules of now. -/
theorem Coherent.view_eq {store : Store} (coherent : store.Coherent) :
    store.view = store.rules := by
  cases kept : store.cached with
  | none => simp [view, all, kept]
  | some snapshot => simpa [view, all, kept] using coherent.current snapshot kept

theorem Coherent.all {store : Store} (coherent : store.Coherent) : store.all.2.Coherent := by
  cases kept : store.cached with
  | none => constructor <;> simp [Store.all, kept]
  | some snapshot => simpa [Store.all, kept] using coherent

theorem perform_coherent {store : Store} (coherent : store.Coherent) (operation : Operation) :
    (store.perform operation).2.Coherent := by
  obtain ⟨rule, -, next⟩ | ⟨-, next⟩ | ⟨-, next⟩ := store.perform_cases operation
  · rw [next]; exact coherent_of_cached_eq_none rfl
  · rw [next]; exact coherent.all
  · rw [next]; exact coherent

theorem after_coherent {store : Store} (coherent : store.Coherent) (operations : List Operation) :
    (store.after operations).Coherent := by
  induction operations generalizing store with
  | nil => exact coherent
  | cons operation rest ih => exact ih (perform_coherent coherent operation)

/-! ### The rules of now -/

theorem perform_rules (store : Store) (operation : Operation) :
    (store.perform operation).2.rules = store.rules ++ accepted [operation] := by
  obtain ⟨rule, added, next⟩ | ⟨added, next⟩ | ⟨added, next⟩ := store.perform_cases operation
  · rw [next, added]
  · rw [next, added, List.append_nil, all_rules]
  · rw [next, added, List.append_nil]

/-- The rules after a run are those before and, after them, those that the run added. -/
theorem after_rules (store : Store) (operations : List Operation) :
    (store.after operations).rules = store.rules ++ accepted operations := by
  induction operations generalizing store with
  | nil => simp
  | cons operation rest ih =>
      rw [after_cons, ih, perform_rules, accepted_cons operation rest, List.append_assoc]

/-! ### Snapshots given before -/

/-- A snapshot that the store gave once, when the rules `since` were added after that. As long as
none were, it is the one that is kept; afterwards every kept one has a greater number. -/
structure Outlives (store : Store) (seen : Snapshot) (since : List Rule) : Prop where
  rules : store.rules = seen.rules ++ since
  own : store.origin = seen.origin
  numbered : seen.serial < store.made
  kept : since = [] → store.cached = some seen
  renewed : since ≠ [] → ∀ kept ∈ store.cached, seen.serial < kept.serial

/-- A snapshot that was given just now. -/
theorem Coherent.outlives {store : Store} (coherent : store.Coherent) :
    store.all.2.Outlives store.all.1 [] where
  rules := by rw [all_rules, List.append_nil]; exact coherent.view_eq.symm
  own := (coherent.all.own _ store.all_cached).symm
  numbered := coherent.all.numbered _ store.all_cached
  kept := fun _ => store.all_cached
  renewed := fun added => absurd rfl added

/-- Reading gives the snapshot again as long as no rule was added, and a newer one afterwards. -/
theorem Outlives.all {store : Store} {seen : Snapshot} {since : List Rule}
    (outlives : store.Outlives seen since) : store.all.2.Outlives seen since := by
  cases kept : store.cached with
  | some snapshot => simpa [Store.all, kept] using outlives
  | none =>
      -- The snapshot seen would be kept if no rule had been added since.
      have added : since ≠ [] := fun none_added => by
        simpa [kept] using outlives.kept none_added
      constructor
      · rw [all_rules]; exact outlives.rules
      · rw [all_origin]; exact outlives.own
      · simpa [Store.all, kept] using Nat.lt_succ_of_lt outlives.numbered
      · exact fun none_added => absurd none_added added
      · simpa [Store.all, kept] using fun _ => outlives.numbered

theorem Outlives.perform {store : Store} {seen : Snapshot} {since : List Rule}
    (outlives : store.Outlives seen since) (operation : Operation) :
    (store.perform operation).2.Outlives seen (since ++ accepted [operation]) := by
  obtain ⟨rule, added, next⟩ | ⟨added, next⟩ | ⟨added, next⟩ := store.perform_cases operation
  · rw [next, added]
    constructor
    · simp [outlives.rules]
    · exact outlives.own
    · exact outlives.numbered
    · simp
    · simp
  · rw [next, added, List.append_nil]; exact outlives.all
  · rw [next, added, List.append_nil]; exact outlives

theorem Outlives.after {store : Store} {seen : Snapshot} {since : List Rule}
    (outlives : store.Outlives seen since) (operations : List Operation) :
    (store.after operations).Outlives seen (since ++ accepted operations) := by
  induction operations generalizing store since with
  | nil => simpa using outlives
  | cons operation rest ih =>
      rw [after_cons, accepted_cons, ← List.append_assoc]
      exact ih (outlives.perform operation)

/-- The snapshot of now against one given before: it goes on where that one ended, and it is the
same snapshot exactly when nothing was added. -/
theorem Outlives.isSame_iff {store : Store} {seen : Snapshot} {since : List Rule}
    (outlives : store.Outlives seen since) (coherent : store.Coherent) :
    store.all.1.rules = seen.rules ++ since ∧
      (seen.isSame store.all.1 = true ↔ since = []) := by
  have now : store.all.1.rules = seen.rules ++ since :=
    coherent.view_eq.trans outlives.rules
  refine ⟨now, fun same => ?_, fun none_added => ?_⟩
  · by_cases added : since = []
    · exact added
    -- Otherwise the snapshot of now has another number, and it has rules.
    have newer : seen.serial < store.all.1.serial := by
      cases kept : store.cached with
      | none => simpa [Store.all, kept] using outlives.numbered
      | some snapshot => simpa [Store.all, kept] using outlives.renewed added snapshot kept
    have other : seen.serial ≠ store.all.1.serial := Nat.ne_of_lt newer
    simp [Snapshot.isSame, now, added, other] at same
  · rw [all_of_cached (outlives.kept none_added)]
    simp [Snapshot.isSame]

/-! ### Rules for a type, and for a type and an action -/

theorem Coherent.forResource_eq {store : Store} (coherent : store.Coherent) (type : Document) :
    store.forResource type = store.rules.filter fun rule => type.text? = some rule.resource := by
  rw [forResource, coherent.view_eq]
  refine List.filter_congr fun rule _ => ?_
  rw [Bool.eq_iff_iff, Document.text_equal_iff, decide_eq_true_iff]

/-- The places of the rules for a type and an action. -/
theorem Coherent.mem_matching {store : Store} (coherent : store.Coherent)
    {type action : Document} {index : Nat} {rule : Rule} :
    (index, rule) ∈ store.matching type action ↔ store.rules[index]? = some rule ∧
      type.text? = some rule.resource ∧ action.text? = some rule.action := by
  rw [matching, coherent.view_eq, List.mem_map]
  constructor
  · rintro ⟨⟨found, place⟩, among, entry⟩
    obtain ⟨rfl, rfl⟩ := Prod.mk.inj entry
    obtain ⟨there, forThem⟩ := List.mem_filter.1 among
    exact ⟨List.mem_zipIdx_iff_getElem?.1 there, Rule.isFor_iff.1 forThem⟩
  · rintro ⟨there, forThem⟩
    exact ⟨(rule, index), List.mem_filter.2
      ⟨List.mem_zipIdx_iff_getElem?.2 there, Rule.isFor_iff.2 forThem⟩, rfl⟩

/-- The places are given in ascending order. -/
theorem matching_pairwise (store : Store) (type action : Document) :
    (store.matching type action).Pairwise fun one other => one.1 < other.1 := by
  have places : (store.view.zipIdx.map Prod.snd).Pairwise (· < ·) := by
    rw [List.zipIdx_map_snd]
    exact List.pairwise_lt_range'
  rw [matching, List.pairwise_map]
  exact (List.pairwise_map.1 places).filter _

/-! ### The first state -/

theorem rulesOf_eq_ok {inputs : List RuleInput} {rules : List Rule}
    (made : rulesOf inputs = .ok rules) : inputs.map RuleInput.toRule = rules.map .ok := by
  induction inputs generalizing rules with
  | nil => cases made; rfl
  | cons input rest ih =>
      cases first : input.toRule with
      | error failure => simp [rulesOf, first, bind, Except.bind] at made
      | ok rule =>
          cases others : rulesOf rest with
          | error failure => simp [rulesOf, first, others, bind, Except.bind] at made
          | ok more =>
              simp only [rulesOf, first, others, bind, Except.bind, pure, Except.pure] at made
              obtain rfl := Except.ok.inj made
              rw [List.map_cons, List.map_cons, first, ih others]

/-- A new store holds the rules that its inputs describe, and no snapshot. -/
theorem ofInputs_eq_ok {origin : Nat} {inputs : List RuleInput} {first : Store}
    (made : ofInputs origin inputs = .ok first) :
    inputs.map RuleInput.toRule = first.rules.map .ok ∧ first.cached = none := by
  cases described : rulesOf inputs with
  | error failure => simp [ofInputs, described, bind, Except.bind] at made
  | ok rules =>
      simp only [ofInputs, described, bind, Except.bind, pure, Except.pure] at made
      obtain rfl := Except.ok.inj made
      exact ⟨rulesOf_eq_ok described, rfl⟩

/-- A new store has no snapshot to disagree with, and operations keep it so. -/
theorem coherent_of_ofInputs {origin : Nat} {inputs : List RuleInput} {first : Store}
    (made : ofInputs origin inputs = .ok first) (operations : List Operation) :
    (first.after operations).Coherent := by
  obtain ⟨-, fresh⟩ := ofInputs_eq_ok made
  exact after_coherent (coherent_of_cached_eq_none fresh) operations

/-! ### Everything that can be observed -/

/-- What the operations of a run observe of a store that began as `first`, made from `inputs`, and
on which the operations `before` were performed until it became `store`. -/
structure History (inputs : List RuleInput) (first : Store) (before : List Operation)
    (store : Store) : Prop where
  /-- The snapshot kept is absent, or of the rules of now. -/
  cached : store.cached = none ∨ ∃ kept, store.cached = some kept ∧ kept.rules = store.rules
  /-- Every input of the first store described a rule of it. -/
  inputs : inputs.map RuleInput.toRule = first.rules.map .ok
  /-- The rules are those of the first store and then those added, in order. -/
  rules : store.rules = first.rules ++ accepted before
  all : ∃ seen, (store.perform .all).1 = .snapshot seen ∧ seen.rules = store.rules ∧
    -- However many operations later, the snapshot of then goes on where this one ended, and is
    -- this one exactly when none of the operations added a rule.
    ∀ between, ∃ later,
      (((store.perform .all).2.after between).perform .all).1 = .snapshot later ∧
      later.rules = seen.rules ++ accepted between ∧
      (seen.isSame later = true ↔ accepted between = []) ∧
      (seen.isSame later = true → later = seen)
  size : (store.perform .size).1 = .size store.rules.length
  iterate : (store.perform .iterate).1 = .rules store.rules
  forResource : ∀ type, (store.perform (.forResource type)).1 =
    .rules (store.rules.filter fun rule => type.text? = some rule.resource)
  /-- The places are in order, and they are those of the rules for the type and the action. -/
  matching : ∀ type action, ∃ places, (store.perform (.matching type action)).1 = .places places ∧
    places.Pairwise (fun one other => one.1 < other.1) ∧
    ∀ index rule, (index, rule) ∈ places ↔ store.rules[index]? = some rule ∧
      type.text? = some rule.resource ∧ action.text? = some rule.action
  /-- Adding what is no rule changes nothing. -/
  refused : ∀ input failure, input.toRule = .error failure →
    store.perform (.add input) = (.refused failure, store)

theorem after_history {origin : Nat} {inputs : List RuleInput} {first : Store}
    (made : ofInputs origin inputs = .ok first) (before : List Operation) :
    History inputs first before (first.after before) := by
  obtain ⟨described, -⟩ := ofInputs_eq_ok made
  have coherent : (first.after before).Coherent := coherent_of_ofInputs made before
  constructor
  case cached =>
    cases kept : (first.after before).cached with
    | none => exact Or.inl rfl
    | some snapshot => exact Or.inr ⟨snapshot, rfl, coherent.current snapshot kept⟩
  case inputs => exact described
  case rules => exact after_rules first before
  case all =>
    refine ⟨_, rfl, coherent.view_eq, fun between => ⟨_, rfl, ?_⟩⟩
    have outlives := coherent.outlives.after between
    rw [List.nil_append] at outlives
    obtain ⟨goesOn, same⟩ := outlives.isSame_iff (after_coherent coherent.all between)
    refine ⟨goesOn, same, fun unchanged => ?_⟩
    exact all_of_cached (outlives.kept (same.1 unchanged))
  case size => rfl
  case iterate => rw [← coherent.view_eq]; rfl
  case forResource => exact fun type => by rw [← coherent.forResource_eq]; rfl
  case matching =>
    exact fun type action =>
      ⟨_, rfl, matching_pairwise _ type action, fun index rule => coherent.mem_matching⟩
  case refused => exact fun input failure => perform_add_error

/-- A run that reads, fails to add, and adds. -/
theorem after_history_of_refused_and_added :
    ofInputs 0 [.rule ⟨"document", "read", none, none, nofun⟩] =
        .ok ⟨[⟨"document", "read", none, none, nofun⟩], 0, 0, none⟩ ∧
      History [.rule ⟨"document", "read", none, none, nofun⟩]
        ⟨[⟨"document", "read", none, none, nofun⟩], 0, 0, none⟩
        [.all, .add (.document .null), .all, .add (.rule ⟨"document", "write", none, none, nofun⟩)]
        ⟨[⟨"document", "read", none, none, nofun⟩, ⟨"document", "write", none, none, nofun⟩], 0, 1,
          none⟩ := by
  have made : ofInputs 0 [.rule ⟨"document", "read", none, none, nofun⟩] =
      .ok ⟨[⟨"document", "read", none, none, nofun⟩], 0, 0, none⟩ := rfl
  exact ⟨made, after_history made
    [.all, .add (.document .null), .all, .add (.rule ⟨"document", "write", none, none, nofun⟩)]⟩

end AccessRules.Store
