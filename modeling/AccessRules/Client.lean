import AccessRules.Loading

/-!
# The client

A client gets its resolver once and answers by it from then on. Initializations by a fetch take
turns: one that finds the gate held waits in line, and only the one whose turn it is looks whether
the client has a resolver, fetches, and sets it. An initialization from rules in memory does not
queue.

**Design.** What happens between two waits of an initialization is one step: `start` joins the
line or takes the turn, `finish` resumes with what was fetched, `wake` gives the turn to the first
in line. Every order of such steps is a run of the client: `Round.happen` takes one of them, and
`Round.after` any number.
-/

namespace AccessRules

/-- A client and its line of initializations. -/
structure Client where
  evaluator : Evaluator
  /-- The registry that loads and decisions are counted in. -/
  collector : Option String
  /-- The number of the resolver, once there is one. -/
  resolver : Option Nat
  /-- The initialization whose fetch is under way. -/
  turn : Option Nat
  /-- The initializations in line, the first to come first. -/
  line : List Nat

/-- A client without a resolver. -/
def Client.new (evaluator : Evaluator) (collector : Option String) : Client :=
  ⟨evaluator, collector, none, none, []⟩

namespace Client

/-- Does the client have a resolver? -/
def isInitialized (client : Client) : Bool := client.resolver.isSome

/-- The number of the client's resolver. -/
def getResolver (client : Client) : Except Failure Nat :=
  match client.resolver with
  | some number => .ok number
  | none => .error (.report .notInitialized)

/-- What a step of an initialization shows to the outside. -/
inductive Effect where
  /-- The initialization waits in line. -/
  | waits
  /-- The initialization began to fetch. -/
  | fetches (call : Nat)
  /-- The initialization is over. -/
  | ended (call : Nat) (result : Except Failure Nat)

/-- Give an initialization the turn: a client with a resolver refuses it at once. -/
def giveTurn (client : Client) (call : Nat) : Effect × Client :=
  if client.isInitialized then (.ended call (.error (.report .alreadyInitialized)), client)
  else (.fetches call, { client with turn := some call })

/-- An initialization comes. -/
def start (client : Client) (call : Nat) : Effect × Client :=
  if client.turn.isNone && client.line.isEmpty then client.giveTurn call
  else (.waits, { client with line := client.line ++ [call] })

/-- Give the turn to the first in line when nobody has it. -/
def wake (client : Client) : Option (Effect × Client) :=
  match client.turn, client.line with
  | none, call :: rest => some ({ client with line := rest }.giveTurn call)
  | _, _ => none

/-- The number of rules of a resolver. -/
def ruleCount (engine : Engine) (number : Nat) : Nat :=
  (engine.services[number]?.map fun service => service.resolver.store.view.length).getD 0

/-- Take a resolver and tell it. -/
def take (client : Client) (engine : Engine) (number : Nat) : Client × Engine :=
  ({ client with resolver := some number },
    engine.tell none (.clientReady (ruleCount engine number)))

/-- The fetch under way ends. The turn is free afterwards, whatever it brought. -/
def finish (client : Client) (engine : Engine) (fetched : Fetched) :
    Except Failure Nat × Client × Engine :=
  let (loaded, engine) := engine.loadFromFetch client.evaluator client.collector fetched
  let client := { client with turn := none }
  match loaded with
  | .ok number =>
      let (client, engine) := client.take engine number
      (.ok number, client, engine)
  | .error failure => (.error failure, client, engine)

/-- Initialize the client by a fetch while nobody else does. `fetch` may tell what it finds. -/
def initializeByFetch (client : Client) (engine : Engine) (fetch : Engine → Fetched × Engine) :
    Except Failure Nat × Client × Engine :=
  match client.start 0 with
  | (.fetches _, client) =>
      let (fetched, engine) := fetch engine
      client.finish engine fetched
  | (.ended _ result, client) => (result, client, engine)
  | (.waits, client) => (.error (.report .alreadyInitialized), client, engine)

/-- Initialize the client while nobody else does: wait for a fetch, and take the resolver that is
built from its payload. -/
def initializeFrom {σ : Type} (client : Client) (engine : Engine) (fetch : Awaitable σ Payload)
    (drawn : σ) : Except Failure Nat × Client × Engine × σ :=
  match client.start 0 with
  | (.fetches _, client) =>
      let (built, engine, drawn) :=
        engine.createFromFetcher client.evaluator client.collector fetch drawn
      let client := { client with turn := none }
      match built with
      | .ok number =>
          let (client, engine) := client.take engine number
          (.ok number, client, engine, drawn)
      | .error failure => (.error failure, client, engine, drawn)
  | (.ended _ result, client) => (result, client, engine, drawn)
  | (.waits, client) => (.error (.report .alreadyInitialized), client, engine, drawn)

/-- Initialize the client from rules in memory. -/
def initializeFromRules (client : Client) (engine : Engine) (inputs : List RuleInput) :
    Except Failure Nat × Client × Engine :=
  if client.isInitialized then (.error (.report .alreadyInitialized), client, engine)
  else match engine.newResolver client.evaluator client.collector inputs with
    | .ok (number, engine) =>
        let (client, engine) := client.take engine number
        (.ok number, client, engine)
    | .error failure => (.error failure, client, engine)

/-- Initializations under way together: the results so far and the number of fetches. -/
structure Round where
  client : Client
  engine : Engine
  results : List (Nat × Except Failure Nat)
  fetches : Nat

/-- The round of a client that nothing came to yet. -/
def Round.opening (client : Client) (engine : Engine) : Round := ⟨client, engine, [], 0⟩

/-- Note an effect. -/
def Round.note (round : Round) (effect : Effect) (client : Client) : Round :=
  match effect with
  | .waits => { round with client := client }
  | .fetches _ => { round with client := client, fetches := round.fetches + 1 }
  | .ended call result =>
      { round with client := client, results := round.results ++ [(call, result)] }

/-- What may happen next to a client, whichever initializations are under way. -/
inductive Event where
  /-- An initialization by a fetch comes. -/
  | starts (call : Nat)
  /-- The fetch under way ends. -/
  | fetched (outcome : Fetched)
  /-- The turn goes to the first in line. -/
  | wakes
  /-- An initialization from rules in memory comes, and is over at once. -/
  | fromRules (call : Nat) (inputs : List RuleInput)

/-- Let an event happen. Nothing does when no fetch is under way to end, and when nobody waits for
a turn that is free. -/
def Round.happen (round : Round) : Event → Round
  | .starts call =>
      let (effect, client) := round.client.start call
      round.note effect client
  | .fetched outcome => match round.client.turn with
    | some call =>
        let (result, client, engine) := round.client.finish round.engine outcome
        { round with client := client, engine := engine,
                     results := round.results ++ [(call, result)] }
    | none => round
  | .wakes => match round.client.wake with
    | some (effect, client) => round.note effect client
    | none => round
  | .fromRules call inputs =>
      let (result, client, engine) := round.client.initializeFromRules round.engine inputs
      { round with client := client, engine := engine,
                   results := round.results ++ [(call, result)] }

/-- The round after some events. -/
def Round.after (round : Round) (events : List Event) : Round := events.foldl Round.happen round

/-- Let many initializations come one after another. -/
def Round.startAll (round : Round) (calls : List Nat) : Round := round.after (calls.map .starts)

/-- End the fetch under way, or else give the turn to the next in line. -/
def Round.step (round : Round) (fetched : Fetched) : Round :=
  round.happen (if round.client.turn.isSome then .fetched fetched else .wakes)

/-- Take the given number of steps. -/
def Round.run (fetched : Fetched) : Nat → Round → Round
  | 0, round => round
  | steps + 1, round => run fetched steps (round.step fetched)

/-- Initialize the client `count` times together by fetches that all come to the same. The results
are in the order of the calls. -/
def initializeTogether (client : Client) (engine : Engine) (count : Nat) (fetched : Fetched) :
    List (Except Failure Nat) × Nat × Client × Engine :=
  let calls := List.range count
  let round := Round.run fetched (2 * count) ((Round.opening client engine).startAll calls)
  (calls.filterMap fun call => List.lookup call round.results,
    round.fetches, round.client, round.engine)

end Client

end AccessRules
