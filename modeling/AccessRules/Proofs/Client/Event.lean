import AccessRules.Client

/-!
# One event of a client

A client that initializations come to changes in few ways, whatever the order of the events is.
`Happened` lists them, and `happened` shows that there are no others; runs of events are reasoned
about by these cases alone, and the steps of the client are not unfolded again.

What matters of a round is three things: whether the client has a resolver, whether a fetch is
under way (somebody has the turn), and how many initializations returned a resolver.
-/

namespace AccessRules

/-- Rules are inputs that describe themselves. -/
theorem Store.rulesOf_map_rule (rules : List Rule) :
    Store.rulesOf (rules.map .rule) = .ok rules := by
  induction rules with
  | nil => rfl
  | cons rule rest ih =>
      rw [List.map_cons, rulesOf, RuleInput.toRule, ih]
      rfl

namespace Engine

/-- A resolver is built when all inputs describe rules; it is the next one of the engine. -/
theorem newResolver_of_ok {inputs : List RuleInput} {rules : List Rule}
    (made : Store.rulesOf inputs = .ok rules) (engine : Engine) (evaluator : Evaluator)
    (collector : Option String) :
    ∃ next, engine.newResolver evaluator collector inputs = .ok (engine.services.length, next) := by
  simp [newResolver, newStore, Store.ofInputs, made, addService, bind, Except.bind, pure,
    Except.pure]

theorem newResolver_of_error {inputs : List RuleInput} {failure : Failure}
    (refused : Store.rulesOf inputs = .error failure) (engine : Engine) (evaluator : Evaluator)
    (collector : Option String) :
    engine.newResolver evaluator collector inputs = .error failure := by
  simp [newResolver, newStore, Store.ofInputs, refused, bind, Except.bind]

/-- Rules that were loaded make a resolver: a load fails before or not at all. -/
theorem finishLoad_of_ok (rules : List Rule) (engine : Engine) (evaluator : Evaluator)
    (collector : Option String) :
    ∃ number next, engine.finishLoad evaluator collector (.ok rules) = (.ok number, next) := by
  obtain ⟨next, made⟩ := newResolver_of_ok (Store.rulesOf_map_rule rules)
    (engine.tell collector (.rulesLoaded rules.length)) evaluator collector
  simp [finishLoad, made]

end Engine

namespace Client

/-- How many initializations returned a resolver. -/
def Round.returned (round : Round) : Nat := round.results.countP fun entry => entry.2.isOk

/-- How a round may change by an event. -/
inductive Happened (round : Round) (event : Event) (next : Round) : Prop where
  /-- An initialization waits or fails, or nothing happens. -/
  | kept (resolver : next.client.resolver = round.client.resolver)
      (turn : next.client.turn = round.client.turn) (returned : next.returned = round.returned)
  /-- A fetch begins, for a client without a resolver. -/
  | began (fresh : round.client.resolver = none) (free : round.client.turn = none)
      (resolver : next.client.resolver = none) (returned : next.returned = round.returned)
  /-- A fetch ends without rules. -/
  | failed {outcome : Fetched} (fetched : event = .fetched outcome)
      (resolver : next.client.resolver = round.client.resolver)
      (turn : next.client.turn = none) (returned : next.returned = round.returned)
  /-- A fetch ends with rules, and the client takes the resolver over them. -/
  | loaded {outcome : Fetched} {rules : List Rule} {number : Nat}
      (fetched : event = .fetched outcome) (good : outcome.rules = .ok rules)
      (underWay : round.client.turn.isSome) (resolver : next.client.resolver = some number)
      (turn : next.client.turn = none) (returned : next.returned = round.returned + 1)
  /-- An initialization from rules in memory succeeds, whether a fetch is under way or not. -/
  | built {call : Nat} {inputs : List RuleInput} {rules : List Rule} {number : Nat}
      (fromRules : event = .fromRules call inputs) (good : Store.rulesOf inputs = .ok rules)
      (fresh : round.client.resolver = none) (resolver : next.client.resolver = some number)
      (turn : next.client.turn = round.client.turn) (returned : next.returned = round.returned + 1)

variable {round : Round}

/-! ### Each kind of event -/

/-- Whoever gets the turn fetches for a client without a resolver, and is refused otherwise. The
client may have dropped the caller from its line just before. -/
theorem happened_giveTurn {client : Client} (event : Event) (call : Nat)
    (sameResolver : client.resolver = round.client.resolver)
    (sameTurn : client.turn = round.client.turn) (free : round.client.turn = none) :
    Happened round event (round.note (client.giveTurn call).1 (client.giveTurn call).2) := by
  cases held : client.resolver with
  | none =>
      apply Happened.began (sameResolver ▸ held) free
      · simp [giveTurn, isInitialized, held, Round.note]
      · simp [giveTurn, isInitialized, held, Round.note, Round.returned]
  | some number =>
      apply Happened.kept
      · simp [giveTurn, isInitialized, held, Round.note, ← sameResolver]
      · simp [giveTurn, isInitialized, held, Round.note, sameTurn]
      · simp [giveTurn, isInitialized, held, Round.note, Round.returned, Except.isOk,
          Except.toBool]

theorem happened_starts (round : Round) (call : Nat) :
    Happened round (.starts call) (round.happen (.starts call)) := by
  by_cases free : (round.client.turn.isNone && round.client.line.isEmpty) = true
  · have noTurn : round.client.turn = none :=
      Option.isNone_iff_eq_none.1 (Bool.and_eq_true_iff.1 free).1
    have turned := happened_giveTurn (.starts call) call rfl rfl noTurn
    simpa [Round.happen, start, free] using turned
  · apply Happened.kept <;> simp [Round.happen, start, free, Round.note, Round.returned]

theorem happened_wakes (round : Round) : Happened round .wakes (round.happen .wakes) := by
  cases turn : round.client.turn with
  | some call => apply Happened.kept <;> simp [Round.happen, wake, turn]
  | none =>
      cases line : round.client.line with
      | nil => apply Happened.kept <;> simp [Round.happen, wake, turn, line]
      | cons call rest =>
          have turned : Happened round .wakes (round.note
              ({ round.client with line := rest }.giveTurn call).1
              ({ round.client with line := rest }.giveTurn call).2) :=
            happened_giveTurn .wakes call rfl rfl turn
          simpa [Round.happen, wake, turn, line] using turned

/-- A fetch under way that brings rules ends with a resolver, whatever the client has by then. -/
theorem happened_fetched_of_ok {outcome : Fetched} {rules : List Rule}
    (good : outcome.rules = .ok rules) (underWay : round.client.turn.isSome) :
    ∃ number, (round.happen (.fetched outcome)).client.resolver = some number ∧
      (round.happen (.fetched outcome)).client.turn = none ∧
      (round.happen (.fetched outcome)).returned = round.returned + 1 := by
  obtain ⟨call, turn⟩ := Option.isSome_iff_exists.1 underWay
  obtain ⟨number, next, made⟩ := Engine.finishLoad_of_ok rules round.engine
    round.client.evaluator round.client.collector
  refine ⟨number, ?_, ?_, ?_⟩ <;>
    simp [Round.happen, turn, finish, Engine.loadFromFetch, good, made, take, Round.returned,
      Except.isOk, Except.toBool]

/-- The turn is free when a fetch ends, whatever the fetch brought. -/
theorem finish_turn (client : Client) (engine : Engine) (fetched : Fetched) :
    (client.finish engine fetched).2.1.turn = none := by
  unfold finish
  obtain ⟨loaded, engine⟩ := engine.loadFromFetch client.evaluator client.collector fetched
  cases loaded <;> rfl

theorem happen_fetched_turn (round : Round) (outcome : Fetched) :
    (round.happen (.fetched outcome)).client.turn = none := by
  cases turn : round.client.turn with
  | none => simp [Round.happen, turn]
  | some call => simp [Round.happen, turn, finish_turn]

theorem happened_fetched (round : Round) (outcome : Fetched) :
    Happened round (.fetched outcome) (round.happen (.fetched outcome)) := by
  cases turn : round.client.turn with
  | none => apply Happened.kept <;> simp [Round.happen, turn]
  | some call =>
      have underWay : round.client.turn.isSome := by rw [turn]; rfl
      cases good : outcome.rules with
      | ok rules =>
          obtain ⟨number, resolver, ended, returned⟩ := happened_fetched_of_ok good underWay
          exact Happened.loaded rfl good underWay resolver ended returned
      | error failure =>
          apply Happened.failed rfl <;>
            simp [Round.happen, turn, finish, Engine.loadFromFetch, Engine.finishLoad, good,
              Round.returned, Except.isOk, Except.toBool]

/-- Rules in memory that are all right make a resolver for a client that has none, although a fetch
may be under way. -/
theorem happened_fromRules_of_ok {call : Nat} {inputs : List RuleInput} {rules : List Rule}
    (good : Store.rulesOf inputs = .ok rules) (fresh : round.client.resolver = none) :
    ∃ number, (round.happen (.fromRules call inputs)).client.resolver = some number ∧
      (round.happen (.fromRules call inputs)).client.turn = round.client.turn ∧
      (round.happen (.fromRules call inputs)).returned = round.returned + 1 := by
  obtain ⟨next, made⟩ := Engine.newResolver_of_ok good round.engine
    round.client.evaluator round.client.collector
  refine ⟨round.engine.services.length, ?_, ?_, ?_⟩ <;>
    simp [Round.happen, initializeFromRules, isInitialized, fresh, made, take, Round.returned,
      Except.isOk, Except.toBool]

theorem happened_fromRules (round : Round) (call : Nat) (inputs : List RuleInput) :
    Happened round (.fromRules call inputs) (round.happen (.fromRules call inputs)) := by
  cases held : round.client.resolver with
  | some number =>
      apply Happened.kept <;>
        simp [Round.happen, initializeFromRules, isInitialized, held, Round.returned,
          Except.isOk, Except.toBool]
  | none =>
      cases good : Store.rulesOf inputs with
      | ok rules =>
          obtain ⟨number, resolver, turn, returned⟩ := happened_fromRules_of_ok good held
          exact Happened.built rfl good held resolver turn returned
      | error failure =>
          have refused := Engine.newResolver_of_error good round.engine
            round.client.evaluator round.client.collector
          apply Happened.kept <;>
            simp [Round.happen, initializeFromRules, isInitialized, held, refused, Round.returned,
              Except.isOk, Except.toBool]

/-- There are no other changes. -/
theorem happened (round : Round) (event : Event) :
    Happened round event (round.happen event) := by
  cases event with
  | starts call => exact happened_starts round call
  | fetched outcome => exact happened_fetched round outcome
  | wakes => exact happened_wakes round
  | fromRules call inputs => exact happened_fromRules round call inputs

end Client

end AccessRules
