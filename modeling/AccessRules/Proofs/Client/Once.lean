import AccessRules.Proofs.Client.Event
import Mathlib.Data.List.Induction

/-!
# A client is initialized once, unless a fetch is overtaken

A client looks whether it has a resolver before it fetches, and sets the resolver when the fetch
ends; it does not look again. Initializations by a fetch take turns, so among themselves they do
no harm. An initialization from rules in memory takes no turn: when it comes while a fetch is under
way it succeeds, and when the fetch then brings rules, the fetching one succeeds as well and
replaces the resolver. The fetch was *overtaken*.

**`Client.initializesOnce_iff`** says that nothing else goes wrong: whatever comes to a new client
in whatever order, at most one initialization returns a resolver and the resolver stays, exactly
when no fetch is overtaken.

The proof follows a run through its races: the client has a resolver, and a fetch is under way
nevertheless. Only rules in memory that come during a fetch lead there (`races_iff`), and only the
end of that fetch leads to a second resolver.
-/

namespace AccessRules.Client

/-- The client was initialized at most once, and it kept every resolver it got. -/
structure InitializesOnce (first : Round) (events : List Event) : Prop where
  /-- At most one initialization returned a resolver; the others that are over failed. -/
  atMostOne : (first.after events).returned ≤ 1
  /-- A resolver that the client had at some time is the one it has. -/
  neverReplaced : ∀ before after number, events = before ++ after →
    (first.after before).client.resolver = some number →
    (first.after events).client.resolver = some number

/-- Good rules in memory came to a client without a resolver while a fetch was under way, which
has not ended yet. -/
inductive Races (first : Round) : List Event → Prop where
  | intro {before between : List Event} {call : Nat} {inputs : List RuleInput} {rules : List Rule}
      (underWay : (first.after before).client.turn.isSome)
      (fresh : (first.after before).client.resolver = none)
      (good : Store.rulesOf inputs = .ok rules)
      (pending : ∀ outcome, .fetched outcome ∉ between) :
      Races first (before ++ .fromRules call inputs :: between)

/-- The fetch in a race brought rules after all. -/
inductive Overtaken (first : Round) : List Event → Prop where
  | intro {before after : List Event} {outcome : Fetched} {rules : List Rule}
      (race : Races first before) (brought : outcome.rules = .ok rules) :
      Overtaken first (before ++ .fetched outcome :: after)

/-- The client has a resolver while a fetch is under way. -/
structure Raced (round : Round) : Prop where
  underWay : round.client.turn.isSome
  holds : round.client.resolver.isSome

variable {first round : Round} {events : List Event} {event : Event}

/-! ### Runs -/

theorem Round.after_append (first : Round) (before after : List Event) :
    first.after (before ++ after) = (first.after before).after after :=
  List.foldl_append

theorem Round.after_cons (first : Round) (event : Event) (events : List Event) :
    first.after (event :: events) = (first.happen event).after events := rfl

theorem Round.after_concat (first : Round) (events : List Event) (event : Event) :
    first.after (events ++ [event]) = (first.after events).happen event := by
  rw [after_append, after_cons]
  rfl

/-- What has returned stays returned. -/
theorem returned_le_happen (round : Round) (event : Event) :
    round.returned ≤ (round.happen event).returned := by
  cases happened round event with
  | kept _ _ returned | began _ _ _ returned | failed _ _ _ returned =>
      exact Nat.le_of_eq returned.symm
  | loaded _ _ _ _ _ returned | built _ _ _ _ _ returned =>
      rw [returned]
      exact Nat.le_succ _

theorem returned_le_after (round : Round) (events : List Event) :
    round.returned ≤ (round.after events).returned := by
  induction events generalizing round with
  | nil => exact Nat.le_refl _
  | cons event rest ih =>
      rw [Round.after_cons]
      exact Nat.le_trans (returned_le_happen round event) (ih _)

/-! ### Races -/

/-- Nothing but the end of the fetch ends a race. -/
theorem Raced.happen (race : Raced round) (pending : ∀ outcome, event ≠ .fetched outcome) :
    Raced (round.happen event) := by
  cases happened round event with
  | kept resolver turn _ => exact ⟨turn ▸ race.underWay, resolver ▸ race.holds⟩
  | began fresh | built _ _ fresh =>
      have holds := race.holds
      rw [fresh] at holds
      contradiction
  | failed fetched | loaded fetched => exact absurd fetched (pending _)

theorem Raced.after (race : Raced round) (pending : ∀ outcome, .fetched outcome ∉ events) :
    Raced (round.after events) := by
  induction events generalizing round with
  | nil => exact race
  | cons event rest ih =>
      rw [Round.after_cons]
      apply ih
      · exact race.happen fun outcome same => pending outcome (same ▸ List.mem_cons_self)
      · exact fun outcome inRest => pending outcome (List.mem_cons_of_mem _ inRest)

/-- Rules in memory that come during a fetch start a race, and return a resolver. -/
theorem raced_of_fromRules {call : Nat} {inputs : List RuleInput} {rules : List Rule}
    (underWay : round.client.turn.isSome) (fresh : round.client.resolver = none)
    (good : Store.rulesOf inputs = .ok rules) :
    Raced (round.happen (.fromRules call inputs)) ∧
      (round.happen (.fromRules call inputs)).returned = round.returned + 1 := by
  obtain ⟨number, resolver, turn, returned⟩ := happened_fromRules_of_ok good fresh
  exact ⟨⟨turn ▸ underWay, by rw [resolver]; rfl⟩, returned⟩

theorem Races.raced (races : Races first events) :
    Raced (first.after events) ∧ 1 ≤ (first.after events).returned := by
  obtain ⟨underWay, fresh, good, pending⟩ := races
  obtain ⟨race, returned⟩ := raced_of_fromRules underWay fresh good
  rw [Round.after_append, Round.after_cons]
  refine ⟨race.after pending, Nat.le_trans ?_ (returned_le_after _ _)⟩
  omega

/-- The client of a new round has no resolver, so every race began with rules in memory. -/
theorem races_of_raced (fresh : first.client.resolver = none) (race : Raced (first.after events)) :
    Races first events := by
  induction events using List.reverseRecOn with
  | nil =>
      have holds : first.client.resolver.isSome := race.holds
      rw [fresh] at holds
      contradiction
  | append_singleton events event ih =>
      rw [Round.after_concat] at race
      -- A fetch that ends leaves nobody with the turn, so the last event is something else.
      have pending : ∀ outcome, event ≠ .fetched outcome := by
        rintro outcome rfl
        have underWay := race.underWay
        rw [happen_fetched_turn] at underWay
        contradiction
      cases happened (first.after events) event with
      | kept resolver turn _ =>
          -- The race was on before, and the event did not end it.
          have earlier : Raced (first.after events) :=
            ⟨turn ▸ race.underWay, resolver ▸ race.holds⟩
          obtain ⟨underWay, fresh, good, unended⟩ := ih earlier
          rw [List.append_assoc, List.cons_append]
          refine ⟨underWay, fresh, good, ?_⟩
          intro outcome found
          rcases List.mem_append.1 found with early | last
          · exact unended outcome early
          · exact pending outcome (List.mem_singleton.1 last).symm
      | began _ _ resolver =>
          have holds := race.holds
          rw [resolver] at holds
          contradiction
      | failed fetched | loaded fetched => exact absurd fetched (pending _)
      | built fromRules good fresh _ turn _ =>
          subst fromRules
          exact ⟨turn ▸ race.underWay, fresh, good, fun _ => List.not_mem_nil⟩

theorem races_iff (fresh : first.client.resolver = none) :
    Races first events ↔ Raced (first.after events) :=
  ⟨fun races => races.raced.1, races_of_raced fresh⟩

/-! ### Overtaken fetches -/

theorem Overtaken.append (overtaken : Overtaken first events) (later : List Event) :
    Overtaken first (events ++ later) := by
  obtain ⟨race, brought⟩ := overtaken
  rw [List.append_assoc, List.cons_append]
  exact ⟨race, brought⟩

/-- Both the initialization from memory and the one that fetched return a resolver. -/
theorem Overtaken.two_le_returned (overtaken : Overtaken first events) :
    2 ≤ (first.after events).returned := by
  obtain ⟨race, brought⟩ := overtaken
  obtain ⟨raced, one⟩ := race.raced
  obtain ⟨number, -, -, returned⟩ := happened_fetched_of_ok brought raced.underWay
  rw [Round.after_append, Round.after_cons]
  refine Nat.le_trans ?_ (returned_le_after _ _)
  omega

/-- Rules that a fetch brings to a client with a resolver overtake it. -/
theorem overtaken_of_loaded {outcome : Fetched} {rules : List Rule}
    (fresh : first.client.resolver = none) (underWay : (first.after events).client.turn.isSome)
    (holds : (first.after events).client.resolver.isSome) (brought : outcome.rules = .ok rules) :
    Overtaken first (events ++ [.fetched outcome]) :=
  ⟨races_of_raced fresh ⟨underWay, holds⟩, brought⟩

/-- As long as no fetch is overtaken, a resolver was returned if and only if the client has one. -/
theorem returned_eq (fresh : first.client.resolver = none) (unused : first.returned = 0)
    (calm : ¬ Overtaken first events) :
    (first.after events).returned =
      if (first.after events).client.resolver.isSome then 1 else 0 := by
  induction events using List.reverseRecOn with
  | nil =>
      have kept : first.after [] = first := rfl
      rw [kept, fresh, unused]
      rfl
  | append_singleton events event ih =>
      have earlier := ih fun overtaken => calm (overtaken.append _)
      rw [Round.after_concat]
      cases happened (first.after events) event with
      | kept resolver _ returned | failed _ resolver _ returned =>
          rw [returned, resolver]
          exact earlier
      | began fresh _ resolver returned =>
          rw [returned, resolver, earlier, fresh]
      | built _ _ fresh resolver _ returned =>
          rw [returned, resolver, earlier, fresh]
          rfl
      | loaded fetched brought underWay resolver _ returned =>
          subst fetched
          have none : ¬ (first.after events).client.resolver.isSome := fun holds =>
            calm (overtaken_of_loaded fresh underWay holds brought)
          rw [returned, resolver, earlier, if_neg none]
          rfl

/-- As long as no fetch is overtaken, the client keeps the resolver it has. -/
theorem resolver_stays {before after : List Event} {number : Nat}
    (fresh : first.client.resolver = none) (calm : ¬ Overtaken first (before ++ after))
    (held : (first.after before).client.resolver = some number) :
    (first.after (before ++ after)).client.resolver = some number := by
  induction after using List.reverseRecOn with
  | nil => rwa [List.append_nil]
  | append_singleton after event ih =>
      rw [← List.append_assoc] at calm ⊢
      have earlier := ih fun overtaken => calm (overtaken.append _)
      rw [Round.after_concat]
      cases happened (first.after (before ++ after)) event with
      | kept resolver | failed _ resolver => rw [resolver, earlier]
      | began none | built _ _ none =>
          rw [none] at earlier
          contradiction
      | loaded fetched brought underWay =>
          subst fetched
          have holds : (first.after (before ++ after)).client.resolver.isSome := by
            rw [earlier]
            rfl
          exact absurd (overtaken_of_loaded fresh underWay holds brought) calm

/-- **A new client is initialized once exactly when no fetch is overtaken**, in every order of
initializations that begin, fetches that end, turns that pass on and rules in memory. -/
theorem initializesOnce_iff (evaluator : Evaluator) (collector : Option String) (engine : Engine)
    (events : List Event) :
    InitializesOnce (Round.opening (.new evaluator collector) engine) events ↔
      ¬ Overtaken (Round.opening (.new evaluator collector) engine) events := by
  constructor
  · intro once overtaken
    have two := overtaken.two_le_returned
    have one := once.atMostOne
    omega
  · intro calm
    constructor
    · rw [returned_eq rfl rfl calm]
      split <;> omega
    · rintro before after number rfl held
      exact resolver_stays rfl calm held

/-- An initialization from no rules comes during a fetch that brings none: both return a resolver,
and the client changes from the first to the second. -/
theorem not_initializesOnce_when_overtaken :
    let first := Round.opening (.new .standard none) .initial
    let events := [.starts 0, .fromRules 1 [], .fetched (.ok (.checked []))]
    ¬ InitializesOnce first events ∧ (first.after events).returned = 2 ∧
      (first.after (events.take 2)).client.resolver = some 0 ∧
      (first.after events).client.resolver = some 1 := by
  refine ⟨?_, rfl, rfl, rfl⟩
  intro once
  exact absurd once.atMostOne (by decide)

end AccessRules.Client
