import AccessRules.Proofs.Loading.Serve

/-!
# Initializations take turns

When nothing but initializations by a fetch comes to a new client, they are served in the order in
which they came, one fetch at a time, up to the first one that brings rules; those behind it are
refused without a fetch. The fetch of each call has its own outcome, and ends at any time: a `Move`
is that a call comes, that the fetch under way ends, or that the turn passes on, and a run is any
list of moves.

**`Client.initializations_take_turns`** says so of every run in which all calls are over, and also
that every run can be continued until they are.

The proof follows the calls that are over (`Progress`): what they came to, who fetched, and whether
the client has its resolver are functions of that list alone. Who still has the turn or stands in
line is the rest of the arrivals (`Queued`).
-/

namespace AccessRules.Client

/-- What may happen while initializations by a fetch are all that comes to a client. -/
inductive Move where
  | comes (call : Nat)
  /-- The fetch under way ends. -/
  | ends
  /-- The turn passes to the first in line. -/
  | wakes

/-- Make a move, where the fetch of each call comes to its own outcome. -/
def Round.move (outcome : Nat → Fetched) (round : Round) : Move → Round
  | .comes call => round.happen (.starts call)
  | .ends => match round.client.turn with
    | some call => round.happen (.fetched (outcome call))
    | none => round
  | .wakes => round.happen .wakes

/-- The round after some moves. -/
def Round.moved (outcome : Nat → Fetched) (round : Round) (moves : List Move) : Round :=
  moves.foldl (Round.move outcome) round

/-- The calls that come, in order. -/
def arrivals (moves : List Move) : List Nat :=
  moves.filterMap fun move => match move with
    | .comes call => some call
    | _ => none

/-- The beginning or the end of a fetch. -/
inductive Stage where
  | begins (call : Nat)
  | ends (call : Nat)
  deriving DecidableEq, Repr

/-- The fetch that an effect begins. -/
def Effect.stages : Effect → List Stage
  | .fetches call => [.begins call]
  | _ => []

/-- The fetches that begin or end by a move. -/
def Round.stages (round : Round) : Move → List Stage
  | .comes call => (round.client.start call).1.stages
  | .ends => (round.client.turn.map .ends).toList
  | .wakes => (round.client.wake.map fun woken => woken.1.stages).getD []

/-- The fetches of a run, each by its beginning and its end, in order. -/
def Round.log (outcome : Nat → Fetched) (round : Round) : List Move → List Stage
  | [] => []
  | move :: rest => round.stages move ++ (round.move outcome move).log outcome rest

/-- Does the fetch of the call bring rules? -/
def loads (outcome : Nat → Fetched) (call : Nat) : Bool := (outcome call).rules.isOk

/-- How many calls are in front of the first one whose fetch brings rules. -/
def firstLoaded (outcome : Nat → Fetched) (calls : List Nat) : Nat :=
  calls.findIdx (loads outcome)

/-- The calls that fetch: those up to the first one that brings rules. -/
def fetching (outcome : Nat → Fetched) (calls : List Nat) : List Nat :=
  calls.take (firstLoaded outcome calls + 1)

/-- What calls come to that are served in order by a client whose resolver gets a number. -/
def verdicts (outcome : Nat → Fetched) (number : Nat) :
    List Nat → List (Nat × Except Failure Nat)
  | [] => []
  | call :: rest => match (outcome call).rules with
    | .error failure => (call, .error failure) :: verdicts outcome number rest
    | .ok _ =>
        (call, .ok number) :: rest.map fun call => (call, .error (.report .alreadyInitialized))

variable {outcome : Nat → Fetched} {number : Nat}

/-! ### One call more -/

theorem loads_eq_false_iff {call : Nat} :
    loads outcome call = false ↔ ∃ failure, (outcome call).rules = .error failure := by
  cases brought : (outcome call).rules <;> simp [loads, brought, Except.isOk, Except.toBool]

theorem loads_eq_true_iff {call : Nat} :
    loads outcome call = true ↔ ∃ rules, (outcome call).rules = .ok rules := by
  cases brought : (outcome call).rules <;> simp [loads, brought, Except.isOk, Except.toBool]

theorem firstLoaded_of_none {calls : List Nat} (unsettled : calls.any (loads outcome) = false) :
    firstLoaded outcome calls = calls.length :=
  List.findIdx_eq_length_of_false (by simpa using unsettled)

/-- As long as no fetch brought rules, everybody fetched. -/
theorem fetching_of_none {calls : List Nat} (unsettled : calls.any (loads outcome) = false) :
    fetching outcome calls = calls := by
  rw [fetching, firstLoaded_of_none unsettled]
  exact List.take_of_length_le (Nat.le_succ _)

/-- Behind the call whose fetch brought rules nobody fetches. -/
theorem fetching_concat_of_any {calls : List Nat} (settled : calls.any (loads outcome) = true)
    (call : Nat) : fetching outcome (calls ++ [call]) = fetching outcome calls := by
  have inside : firstLoaded outcome calls < calls.length :=
    List.findIdx_lt_length_of_exists (by simpa using settled)
  have same : firstLoaded outcome (calls ++ [call]) = firstLoaded outcome calls := by
    rw [firstLoaded, List.findIdx_append]
    exact if_pos inside
  rw [fetching, same, fetching, List.take_append_of_le_length inside]

theorem fetching_concat_of_none {calls : List Nat} (unsettled : calls.any (loads outcome) = false)
    (call : Nat) : fetching outcome (calls ++ [call]) = calls ++ [call] := by
  have long : calls.length ≤ firstLoaded outcome (calls ++ [call]) := by
    rw [firstLoaded, List.findIdx_append, if_neg]
    · exact Nat.le_add_left _ _
    · exact Nat.not_lt.2 (Nat.le_of_eq (firstLoaded_of_none unsettled).symm)
  exact List.take_of_length_le (by simpa using long)

theorem verdicts_concat_of_any {calls : List Nat} (settled : calls.any (loads outcome) = true)
    (call : Nat) :
    verdicts outcome number (calls ++ [call]) =
      verdicts outcome number calls ++ [(call, .error (.report .alreadyInitialized))] := by
  induction calls with
  | nil => cases settled
  | cons first rest ih =>
      cases brought : (outcome first).rules with
      | ok rules => simp [verdicts, brought]
      | error failure =>
          have later : rest.any (loads outcome) = true := by
            simpa [loads_eq_false_iff.2 ⟨failure, brought⟩] using settled
          simp [verdicts, brought, ih later]

theorem verdicts_concat_of_none {calls : List Nat} (unsettled : calls.any (loads outcome) = false)
    (call : Nat) :
    verdicts outcome number (calls ++ [call]) =
      verdicts outcome number calls ++
        [(call, (outcome call).rules.map fun _ => number)] := by
  induction calls with
  | nil => cases brought : (outcome call).rules <;> simp [verdicts, brought, Except.map]
  | cons first rest ih =>
      obtain ⟨now, later⟩ := Bool.or_eq_false_iff.1 (List.any_cons.symm.trans unsettled)
      obtain ⟨failure, brought⟩ := loads_eq_false_iff.1 now
      simp [verdicts, brought, ih later]

@[simp] theorem verdicts_length (calls : List Nat) :
    (verdicts outcome number calls).length = calls.length := by
  induction calls with
  | nil => rfl
  | cons first rest ih => cases brought : (outcome first).rules <;> simp [verdicts, brought, ih]

@[simp] theorem verdicts_fst (calls : List Nat) :
    (verdicts outcome number calls).map Prod.fst = calls := by
  induction calls with
  | nil => rfl
  | cons first rest ih =>
      cases brought : (outcome first).rules with
      | error failure => simp [verdicts, brought, ih]
      | ok rules => simp [verdicts, brought, Function.comp_def]

/-- What the call at a place comes to depends on where the first call that loads stands. -/
theorem verdicts_getElem? (outcome : Nat → Fetched) (number : Nat) {calls : List Nat}
    {i call : Nat} (there : calls[i]? = some call) :
    (i < firstLoaded outcome calls ∧ ∃ failure, (outcome call).rules = .error failure ∧
      (verdicts outcome number calls)[i]? = some (call, .error failure)) ∨
    (i = firstLoaded outcome calls ∧ ∃ rules, (outcome call).rules = .ok rules ∧
      (verdicts outcome number calls)[i]? = some (call, .ok number)) ∨
    (firstLoaded outcome calls < i ∧ (verdicts outcome number calls)[i]? =
      some (call, .error (.report .alreadyInitialized))) := by
  induction calls generalizing i with
  | nil => cases there
  | cons first rest ih =>
      cases brought : (outcome first).rules with
      | ok rules =>
          have here : firstLoaded outcome (first :: rest) = 0 := by
            rw [firstLoaded, List.findIdx_cons, loads_eq_true_iff.2 ⟨rules, brought⟩, cond_true]
          cases i with
          | zero =>
              obtain rfl : first = call := by simpa using there
              exact Or.inr (Or.inl ⟨here.symm, rules, brought, by simp [verdicts, brought]⟩)
          | succ i =>
              have later : rest[i]? = some call := by simpa using there
              exact Or.inr (Or.inr ⟨here ▸ Nat.succ_pos i, by simp [verdicts, brought, later]⟩)
      | error failure =>
          have beyond : firstLoaded outcome (first :: rest) = firstLoaded outcome rest + 1 := by
            rw [firstLoaded, List.findIdx_cons, loads_eq_false_iff.2 ⟨failure, brought⟩,
              cond_false, firstLoaded]
          rw [beyond]
          cases i with
          | zero =>
              obtain rfl : first = call := by simpa using there
              exact Or.inl ⟨Nat.succ_pos _, failure, brought, by simp [verdicts, brought]⟩
          | succ i =>
              have later : rest[i]? = some call := by simpa using there
              simpa [verdicts, brought] using ih later

/-! ### The calls that are over -/

/-- A round in which the calls `finished` are over: what they came to, the resolver of the client
and the fetches so far. -/
structure Progress (outcome : Nat → Fetched) (number : Nat) (evaluator : Evaluator)
    (finished : List Nat) (log : List Stage) (round : Round) : Prop where
  results : round.results = verdicts outcome number finished
  resolver : round.client.resolver = if finished.any (loads outcome) then some number else none
  /-- Nobody fetches any more when the client has its resolver. -/
  open_of_turn : round.client.turn.isSome → finished.any (loads outcome) = false
  fetches : round.fetches = (fetching outcome finished).length + round.client.turn.toList.length
  log : log = (fetching outcome finished).flatMap (fun call => [.begins call, .ends call]) ++
    round.client.turn.toList.map .begins
  evaluates : round.client.evaluator = evaluator
  /-- The number is kept for the resolver to come. -/
  next : finished.any (loads outcome) = false → round.engine.services.length = number
  serves : ∀ call rules, finished.find? (loads outcome) = some call →
    (outcome call).rules = .ok rules → ∃ service, round.engine.Serves number rules evaluator service

variable {evaluator : Evaluator} {finished : List Nat} {log : List Stage} {round : Round}

theorem find?_concat_of_any {calls : List Nat} (settled : calls.any (loads outcome) = true)
    (call : Nat) :
    (calls ++ [call]).find? (loads outcome) = calls.find? (loads outcome) := by
  obtain ⟨found, among, brings⟩ := List.any_eq_true.1 settled
  obtain ⟨first, there⟩ := Option.isSome_iff_exists.1 (List.find?_isSome.2 ⟨found, among, brings⟩)
  rw [List.find?_append, there, Option.some_or]

theorem find?_concat_of_none {calls : List Nat} (unsettled : calls.any (loads outcome) = false)
    (call : Nat) :
    (calls ++ [call]).find? (loads outcome) = if loads outcome call then some call else none := by
  have missing : calls.find? (loads outcome) = none :=
    List.find?_eq_none.2 (by simpa using unsettled)
  rw [List.find?_append, missing, Option.none_or, List.find?_singleton]

theorem giveTurn_of_resolver {client : Client} (held : client.resolver = some number) (call : Nat) :
    client.giveTurn call = (.ended call (.error (.report .alreadyInitialized)), client) := by
  simp [Client.giveTurn, isInitialized, held]

theorem giveTurn_of_none {client : Client} (fresh : client.resolver = none) (call : Nat) :
    client.giveTurn call = (.fetches call, { client with turn := some call }) := by
  simp [Client.giveTurn, isInitialized, fresh]

/-- The line says nothing about the calls that are over. -/
theorem Progress.relined (progress : Progress outcome number evaluator finished log round)
    (line : List Nat) :
    Progress outcome number evaluator finished log
      { round with client := { round.client with line := line } } :=
  ⟨progress.results, progress.resolver, progress.open_of_turn, progress.fetches, progress.log,
    progress.evaluates, progress.next, progress.serves⟩

/-- The client before an effect does not matter for the round after it. -/
theorem note_of_client (round : Round) (before : Client) (effect : Effect) (client : Client) :
    { round with client := before }.note effect client = round.note effect client := by
  cases effect <;> rfl

/-- A call that gets the turn from a client with a resolver is refused, and over. -/
theorem Progress.refuses (progress : Progress outcome number evaluator finished log round)
    (settled : finished.any (loads outcome) = true) (call : Nat) :
    Progress outcome number evaluator (finished ++ [call]) log
      (round.note (.ended call (.error (.report .alreadyInitialized))) round.client) := by
  have settled' : (finished ++ [call]).any (loads outcome) = true := by simp [settled]
  constructor
  case results => simp [Round.note, progress.results, verdicts_concat_of_any settled]
  case resolver => simpa [Round.note, settled] using progress.resolver
  case open_of_turn =>
    intro turn
    rw [progress.open_of_turn turn] at settled
    cases settled
  case fetches => rw [fetching_concat_of_any settled]; exact progress.fetches
  case log => rw [fetching_concat_of_any settled]; exact progress.log
  case evaluates => exact progress.evaluates
  case next =>
    intro unsettled
    rw [settled'] at unsettled
    cases unsettled
  case serves =>
    intro winner rules found brought
    rw [find?_concat_of_any settled] at found
    exact progress.serves winner rules found brought

/-- A call that gets the turn from a client without a resolver begins to fetch. -/
theorem Progress.begins (progress : Progress outcome number evaluator finished log round)
    (unsettled : finished.any (loads outcome) = false) (free : round.client.turn = none)
    (call : Nat) :
    Progress outcome number evaluator finished (log ++ [.begins call])
      (round.note (.fetches call) { round.client with turn := some call }) := by
  have begun := progress.fetches
  have logged := progress.log
  rw [free] at begun logged
  constructor
  case results => exact progress.results
  case resolver => exact progress.resolver
  case open_of_turn => exact fun _ => unsettled
  case fetches => simp [Round.note, begun]
  case log => simp [Round.note, logged]
  case evaluates => exact progress.evaluates
  case next => exact progress.next
  case serves => exact progress.serves

/-- The call whose fetch is under way ends: its client frees the turn, and has its resolver when the
fetch brought rules. -/
theorem Progress.closes (progress : Progress outcome number evaluator finished log round)
    {call : Nat} (turn : round.client.turn = some call) (client : Client) (engine : Engine)
    (freed : client.turn = none) (evaluates : client.evaluator = round.client.evaluator)
    (resolver : client.resolver = if loads outcome call then some number else none)
    (next : loads outcome call = false → engine.services.length = number)
    (serves : ∀ rules, (outcome call).rules = .ok rules →
      ∃ service, engine.Serves number rules evaluator service) :
    Progress outcome number evaluator (finished ++ [call]) (log ++ [.ends call])
      { round with
        client := client
        engine := engine
        results := round.results ++ [(call, (outcome call).rules.map fun _ => number)] } := by
  have unsettled := progress.open_of_turn (by rw [turn]; rfl)
  have begun := progress.fetches
  have logged := progress.log
  rw [turn, fetching_of_none unsettled] at begun logged
  constructor
  case results => rw [progress.results, verdicts_concat_of_none unsettled]
  case resolver => simp [resolver, unsettled]
  case open_of_turn => simp [freed]
  case fetches => simp [freed, begun, fetching_concat_of_none unsettled]
  case log => simp [freed, logged, fetching_concat_of_none unsettled]
  case evaluates => rw [evaluates, progress.evaluates]
  case next => simpa [unsettled] using next
  case serves =>
    intro winner rules found brought
    cases fruitful : loads outcome call with
    | false => simp [find?_concat_of_none unsettled, fruitful] at found
    | true =>
        obtain rfl : call = winner := by
          simpa [find?_concat_of_none unsettled, fruitful] using found
        exact serves rules brought

/-- The fetch under way ends in its own way, and its call with it. -/
theorem Progress.ends (progress : Progress outcome number evaluator finished log round) {call : Nat}
    (turn : round.client.turn = some call) :
    Progress outcome number evaluator (finished ++ [call]) (log ++ [.ends call])
      (round.happen (.fetched (outcome call))) := by
  have unsettled := progress.open_of_turn (by rw [turn]; rfl)
  have numbered := progress.next unsettled
  have resolver := progress.resolver
  rw [unsettled, if_neg Bool.false_ne_true] at resolver
  cases brought : (outcome call).rules with
  | error failure =>
      have fruitless : loads outcome call = false := loads_eq_false_iff.2 ⟨failure, brought⟩
      simp only [Round.happen, turn, finish_of_error brought]
      simpa [brought, Except.map] using progress.closes turn { round.client with turn := none }
        (round.engine.tell round.client.collector (.loadFailed failure)) rfl rfl
        (by simp [resolver, fruitless]) (fun _ => by rw [Engine.tell_services, numbered])
        (fun rules loaded => by simp [brought] at loaded)
  | ok rules =>
      have fruitful : loads outcome call = true := loads_eq_true_iff.2 ⟨rules, brought⟩
      obtain ⟨next, service, ended, serves⟩ := finish_of_ok brought round.client round.engine
      rw [numbered] at ended serves
      rw [progress.evaluates] at serves
      simp only [Round.happen, turn, ended]
      simpa [brought, Except.map] using progress.closes turn
        { round.client with turn := none, resolver := some number } next rfl rfl
        (by simp [fruitful]) (by simp [fruitful])
        (fun rules' brought' => ⟨service, Except.ok.inj (brought.symm.trans brought') ▸ serves⟩)

theorem finish_line (client : Client) (engine : Engine) (fetched : Fetched) :
    (client.finish engine fetched).2.1.line = client.line := by
  unfold finish
  obtain ⟨loaded, engine⟩ := engine.loadFromFetch client.evaluator client.collector fetched
  cases loaded <;> rfl

/-- Those in line stay there when a fetch ends. -/
theorem happen_fetched_line (round : Round) (fetched : Fetched) :
    (round.happen (.fetched fetched)).client.line = round.client.line := by
  cases turn : round.client.turn with
  | none => simp [Round.happen, turn]
  | some call => simp [Round.happen, turn, finish_line]

/-- The turn passes on only when nobody has it, and to the first in line. -/
theorem wake_eq_some {client : Client} {turned : Effect × Client}
    (woken : client.wake = some turned) :
    ∃ call rest, client.turn = none ∧ client.line = call :: rest ∧
      turned = { client with line := rest }.giveTurn call := by
  cases turn : client.turn with
  | some call => simp [wake, turn] at woken
  | none =>
      cases line : client.line with
      | nil => simp [wake, turn, line] at woken
      | cons call rest => exact ⟨call, rest, rfl, rfl, by simpa [wake, turn, line] using woken.symm⟩

/-! ### The calls that came -/

/-- The calls that came are over, or have the turn, or stand in line, in this order. -/
def Queued (outcome : Nat → Fetched) (number : Nat) (evaluator : Evaluator) (arrived : List Nat)
    (log : List Stage) (round : Round) : Prop :=
  ∃ finished, arrived = finished ++ round.client.turn.toList ++ round.client.line ∧
    Progress outcome number evaluator finished log round

variable {arrived : List Nat}

theorem queued_opening (outcome : Nat → Fetched) (evaluator : Evaluator)
    (collector : Option String) (engine : Engine) :
    Queued outcome engine.services.length evaluator [] []
      (.opening (.new evaluator collector) engine) :=
  ⟨[], rfl, by constructor <;> simp [Round.opening, Client.new, verdicts, fetching]⟩

/-- A call that came gets the turn, which is free, when those in front of it are over. -/
theorem Progress.queued_giveTurn (progress : Progress outcome number evaluator finished log round)
    (free : round.client.turn = none) (call : Nat) :
    Queued outcome number evaluator (finished ++ call :: round.client.line)
      (log ++ (round.client.giveTurn call).1.stages)
      (round.note (round.client.giveTurn call).1 (round.client.giveTurn call).2) := by
  have resolver := progress.resolver
  cases settled : finished.any (loads outcome) with
  | true =>
      rw [settled, if_pos rfl] at resolver
      rw [giveTurn_of_resolver resolver]
      refine ⟨finished ++ [call], by simp [Round.note, free], ?_⟩
      simpa [Effect.stages] using progress.refuses settled call
  | false =>
      rw [settled, if_neg Bool.false_ne_true] at resolver
      rw [giveTurn_of_none resolver]
      exact ⟨finished, by simp [Round.note], progress.begins settled free call⟩

theorem Queued.comes (queued : Queued outcome number evaluator arrived log round) (call : Nat) :
    Queued outcome number evaluator (arrived ++ [call]) (log ++ round.stages (.comes call))
      (round.move outcome (.comes call)) := by
  obtain ⟨finished, split, progress⟩ := queued
  by_cases free : round.client.turn = none ∧ round.client.line = []
  · obtain ⟨noTurn, noLine⟩ := free
    have turned := progress.queued_giveTurn noTurn call
    have started : round.client.start call = round.client.giveTurn call := by
      simp [start, noTurn, noLine]
    have alone : finished ++ call :: round.client.line = arrived ++ [call] := by
      simp [split, noTurn, noLine]
    rw [alone] at turned
    simpa [Round.move, Round.happen, Round.stages, started] using turned
  · have waits : round.client.start call =
        (.waits, { round.client with line := round.client.line ++ [call] }) := by
      rw [start, if_neg]
      simpa [List.isEmpty_iff] using free
    simp only [Round.move, Round.happen, Round.stages, waits]
    refine ⟨finished, by simp [Round.note, split], ?_⟩
    simpa [Effect.stages, Round.note] using progress.relined (round.client.line ++ [call])

theorem Queued.ends (queued : Queued outcome number evaluator arrived log round) :
    Queued outcome number evaluator arrived (log ++ round.stages .ends)
      (round.move outcome .ends) := by
  cases turn : round.client.turn with
  | none => simpa [Round.move, Round.stages, turn] using queued
  | some call =>
      obtain ⟨finished, split, progress⟩ := queued
      simp only [Round.move, Round.stages, turn]
      refine ⟨finished ++ [call], ?_, progress.ends turn⟩
      simp [happen_fetched_turn, happen_fetched_line, split, turn]

theorem Queued.wakes (queued : Queued outcome number evaluator arrived log round) :
    Queued outcome number evaluator arrived (log ++ round.stages .wakes)
      (round.move outcome .wakes) := by
  cases woken : round.client.wake with
  | none => simpa [Round.move, Round.happen, Round.stages, woken] using queued
  | some turned =>
      obtain ⟨finished, split, progress⟩ := queued
      obtain ⟨call, rest, turn, line, rfl⟩ := wake_eq_some woken
      have taken := (progress.relined rest).queued_giveTurn turn call
      rw [split, turn, line]
      simpa [Round.move, Round.happen, Round.stages, woken, note_of_client] using taken

/-- A move keeps the calls in their order. -/
theorem Queued.move (queued : Queued outcome number evaluator arrived log round) (move : Move) :
    Queued outcome number evaluator (arrived ++ arrivals [move]) (log ++ round.stages move)
      (round.move outcome move) := by
  cases move with
  | comes call => exact queued.comes call
  | ends => simpa [arrivals] using queued.ends
  | wakes => simpa [arrivals] using queued.wakes

theorem arrivals_append (earlier later : List Move) :
    arrivals (earlier ++ later) = arrivals earlier ++ arrivals later :=
  List.filterMap_append

theorem arrivals_cons (move : Move) (rest : List Move) :
    arrivals (move :: rest) = arrivals [move] ++ arrivals rest :=
  arrivals_append [move] rest

theorem Queued.moved (queued : Queued outcome number evaluator arrived log round)
    (moves : List Move) :
    Queued outcome number evaluator (arrived ++ arrivals moves) (log ++ round.log outcome moves)
      (round.moved outcome moves) := by
  induction moves generalizing arrived log round with
  | nil => simpa [arrivals, Round.log, Round.moved] using queued
  | cons move rest ih =>
      have later := ih (queued.move move)
      rwa [List.append_assoc, ← arrivals_cons, List.append_assoc] at later

/-! ### The end of a run -/

/-- Every call that came is over. -/
def AllOver (outcome : Nat → Fetched) (first : Round) (moves : List Move) : Prop :=
  (first.moved outcome moves).results.length = (arrivals moves).length

/-- What a run comes to in which all calls are over; `log` tells its fetches. The first call whose
fetch brings rules has `firstLoaded` others in front of it. -/
structure ServedInTurn (outcome : Nat → Fetched) (calls : List Nat) (log : List Stage)
    (last : Round) : Prop where
  /-- Everybody is served once, in the order in which they came. -/
  order : last.results.map Prod.fst = calls
  /-- Those in front of the first call that loads raise the failure of their own load. -/
  failed : ∀ i < firstLoaded outcome calls, ∀ call, calls[i]? = some call →
    ∃ failure, (outcome call).rules = .error failure ∧
      last.results[i]? = some (call, .error failure)
  /-- That call returns the resolver which the client has, over the rules of its own fetch. -/
  loaded : ∀ call, calls[firstLoaded outcome calls]? = some call →
    ∃ rules number service, (outcome call).rules = .ok rules ∧
      last.results[firstLoaded outcome calls]? = some (call, .ok number) ∧
      last.client.resolver = some number ∧
      last.engine.Serves number rules last.client.evaluator service
  unloaded : calls.length ≤ firstLoaded outcome calls → last.client.resolver = none
  refused : ∀ i, firstLoaded outcome calls < i → ∀ call, calls[i]? = some call →
    last.results[i]? = some (call, .error (.report .alreadyInitialized))
  /-- The calls up to that one fetch, the others do not. -/
  fetches : last.fetches = min (firstLoaded outcome calls + 1) calls.length
  /-- A fetch ends before the next one begins. -/
  apart : log = (calls.take (firstLoaded outcome calls + 1)).flatMap fun call =>
    [.begins call, .ends call]
  /-- Nobody has the turn, and nobody waits for it. -/
  free : last.client.turn = none ∧ last.client.line = []

/-- A round whose calls are all over is one that served them in turn. -/
theorem Progress.servedInTurn (progress : Progress outcome number evaluator finished log round)
    (noTurn : round.client.turn = none) (noLine : round.client.line = []) :
    ServedInTurn outcome finished log round := by
  have begun := progress.fetches
  have logged := progress.log
  rw [noTurn] at begun logged
  constructor
  case order => rw [progress.results, verdicts_fst]
  case failed =>
    intro i before call there
    rw [progress.results]
    obtain ⟨-, fails⟩ | ⟨same, -⟩ | ⟨behind, -⟩ := verdicts_getElem? outcome number there
    · exact fails
    · omega
    · omega
  case loaded =>
    intro call there
    have found : finished.find? (loads outcome) = some call :=
      List.find?_eq_getElem?_findIdx.trans there
    have settled : finished.any (loads outcome) = true :=
      List.any_eq_true.2 ⟨call, List.mem_of_find?_eq_some found, List.find?_some found⟩
    obtain ⟨less, -⟩ | ⟨-, rules, brought, verdict⟩ | ⟨less, -⟩ :=
      verdicts_getElem? outcome number there
    · exact absurd less (Nat.lt_irrefl _)
    · obtain ⟨service, serves⟩ := progress.serves call rules found brought
      refine ⟨rules, number, service, brought, ?_, ?_, ?_⟩
      · rw [progress.results, verdict]
      · rw [progress.resolver, if_pos settled]
      · rw [progress.evaluates]
        exact serves
    · exact absurd less (Nat.lt_irrefl _)
  case unloaded =>
    intro all
    have unsettled : finished.any (loads outcome) = false := by
      have everyone : finished.findIdx (loads outcome) = finished.length :=
        Nat.le_antisymm List.findIdx_le_length all
      simpa using List.findIdx_eq_length.1 everyone
    rw [progress.resolver, unsettled, if_neg Bool.false_ne_true]
  case refused =>
    intro i behind call there
    rw [progress.results]
    obtain ⟨less, -⟩ | ⟨same, -⟩ | ⟨-, refused⟩ := verdicts_getElem? outcome number there
    · omega
    · omega
    · exact refused
  case fetches => rw [begun, fetching, List.length_take]; rfl
  case apart => rw [logged, fetching]; exact List.append_nil _
  case free => exact ⟨noTurn, noLine⟩

/-- As many calls are over as came only when nobody has the turn and nobody waits. -/
theorem Queued.servedInTurn (queued : Queued outcome number evaluator arrived log round)
    (allOver : round.results.length = arrived.length) :
    ServedInTurn outcome arrived log round := by
  obtain ⟨finished, split, progress⟩ := queued
  have lengths := congrArg List.length split
  simp only [List.length_append] at lengths
  rw [progress.results, verdicts_length] at allOver
  have noTurn : round.client.turn = none := by
    cases turn : round.client.turn with
    | none => rfl
    | some call => simp [turn] at lengths; omega
  have noLine : round.client.line = [] := List.eq_nil_of_length_eq_zero (by omega)
  obtain rfl : arrived = finished := by simpa [noTurn, noLine] using split
  exact progress.servedInTurn noTurn noLine

/-- Whoever returned a resolver returned the one that the client has. -/
theorem Queued.resolver_of_returned (queued : Queued outcome number evaluator arrived log round)
    {call given : Nat} (returned : (call, .ok given) ∈ round.results) :
    round.client.resolver = some given ∧ given = number := by
  obtain ⟨finished, -, progress⟩ := queued
  rw [progress.results] at returned
  obtain ⟨i, there⟩ := List.mem_iff_getElem?.1 returned
  have called : finished[i]? = some call := by
    have mapped := congrArg (Option.map Prod.fst) there
    rw [← List.getElem?_map, verdicts_fst] at mapped
    exact mapped
  obtain ⟨-, failure, -, verdict⟩ | ⟨same, rules, brought, verdict⟩ | ⟨-, verdict⟩ :=
    verdicts_getElem? outcome number called
  · simp [there] at verdict
  · have settled : finished.any (loads outcome) = true :=
      List.any_eq_true.2 ⟨call, List.mem_of_getElem? called, loads_eq_true_iff.2 ⟨rules, brought⟩⟩
    have number_eq : given = number := by simpa [there] using verdict
    rw [progress.resolver, if_pos settled, number_eq]
    exact ⟨rfl, rfl⟩
  · simp [there] at verdict

/-! ### Runs go on -/

theorem mem_results_note {entry : Nat × Except Failure Nat} (among : entry ∈ round.results)
    (effect : Effect) (client : Client) : entry ∈ (round.note effect client).results := by
  cases effect with
  | ended call result => exact List.mem_append_left _ among
  | _ => exact among

/-- What has been returned stays returned. -/
theorem mem_results_move {entry : Nat × Except Failure Nat} (among : entry ∈ round.results)
    (move : Move) : entry ∈ (round.move outcome move).results := by
  cases move with
  | comes call => exact mem_results_note among _ _
  | ends =>
      cases turn : round.client.turn with
      | none => simpa [Round.move, turn] using among
      | some call => simp [Round.move, Round.happen, turn, among]
  | wakes =>
      cases woken : round.client.wake with
      | none => simpa [Round.move, Round.happen, woken] using among
      | some turned => simpa [Round.move, Round.happen, woken] using mem_results_note among _ _

theorem mem_results_moved {entry : Nat × Except Failure Nat} (among : entry ∈ round.results)
    (moves : List Move) : entry ∈ (round.moved outcome moves).results := by
  induction moves generalizing round with
  | nil => exact among
  | cons move rest ih => exact ih (mem_results_move among move)

theorem moved_append (outcome : Nat → Fetched) (round : Round) (earlier later : List Move) :
    round.moved outcome (earlier ++ later) = (round.moved outcome earlier).moved outcome later :=
  List.foldl_append

/-- How far a round is from its end: a call in line has to be woken and to fetch, one whose fetch is
under way has to end. -/
def Round.pending (round : Round) : Nat :=
  2 * round.client.line.length + round.client.turn.toList.length

/-- Some move brings a round nearer to its end, unless nobody has the turn or waits for it. -/
theorem Queued.exists_move (queued : Queued outcome number evaluator arrived log round)
    (unfinished : ¬ (round.client.turn = none ∧ round.client.line = [])) :
    ∃ move, arrivals [move] = [] ∧ (round.move outcome move).pending < round.pending := by
  obtain ⟨finished, -, progress⟩ := queued
  cases turn : round.client.turn with
  | some call =>
      refine ⟨.ends, rfl, ?_⟩
      simp [Round.pending, Round.move, turn, happen_fetched_turn, happen_fetched_line]
  | none =>
      cases line : round.client.line with
      | nil => exact absurd ⟨turn, line⟩ unfinished
      | cons call rest =>
          refine ⟨.wakes, rfl, ?_⟩
          have woken : round.client.wake =
              some ({ round.client with line := rest }.giveTurn call) := by
            simp [wake, turn, line]
          cases held : round.client.resolver with
          | none =>
              simp [Round.pending, Round.move, Round.happen, woken, giveTurn, isInitialized, held,
                Round.note, turn, line]
              omega
          | some given =>
              simp [Round.pending, Round.move, Round.happen, woken, giveTurn, isInitialized, held,
                Round.note, turn, line]

/-- A round in which nobody has the turn or waits is at its end. -/
theorem Queued.results_length (queued : Queued outcome number evaluator arrived log round)
    (noTurn : round.client.turn = none) (noLine : round.client.line = []) :
    round.results.length = arrived.length := by
  obtain ⟨finished, split, progress⟩ := queued
  rw [split, noTurn, noLine, progress.results]
  simp

/-- Every round can be brought to its end by fetches that end and turns that pass on. The induction
is on a bound for how far the end is. -/
theorem Queued.exists_end (bound : Nat) (queued : Queued outcome number evaluator arrived log round)
    (near : round.pending ≤ bound) :
    ∃ later, arrivals later = [] ∧
      (round.moved outcome later).results.length = arrived.length := by
  induction bound generalizing round log with
  | zero =>
      by_cases finished : round.client.turn = none ∧ round.client.line = []
      · exact ⟨[], rfl, queued.results_length finished.1 finished.2⟩
      · obtain ⟨move, -, nearer⟩ := queued.exists_move finished
        omega
  | succ bound ih =>
      by_cases finished : round.client.turn = none ∧ round.client.line = []
      · exact ⟨[], rfl, queued.results_length finished.1 finished.2⟩
      · obtain ⟨move, alone, nearer⟩ := queued.exists_move finished
        have next := queued.move move
        rw [alone, List.append_nil] at next
        obtain ⟨later, nobody, ended⟩ := ih next (by omega)
        refine ⟨move :: later, ?_, ended⟩
        rw [arrivals_cons, alone, nobody, List.append_nil]

/-- Initializations by a fetch come to a new client, in any number and at any time; fetches end in
their own ways and at any time, and turns pass on. Such a run can always be continued to its end.
Whoever returns a resolver returns the one that the client has from then on. And when all calls are
over, they were served in turn. -/
theorem initializations_take_turns (outcome : Nat → Fetched) (evaluator : Evaluator)
    (collector : Option String) (engine : Engine) (moves : List Move) :
    let first := Round.opening (.new evaluator collector) engine
    (∃ later, arrivals later = [] ∧ AllOver outcome first (moves ++ later)) ∧
    (∀ earlier later call number, moves = earlier ++ later →
      (call, .ok number) ∈ (first.moved outcome earlier).results →
      (first.moved outcome moves).client.resolver = some number) ∧
    (AllOver outcome first moves →
      ServedInTurn outcome (arrivals moves) (first.log outcome moves)
        (first.moved outcome moves)) := by
  intro first
  have opened := queued_opening outcome evaluator collector engine
  have queued := opened.moved moves
  refine ⟨?_, ?_, ?_⟩
  · obtain ⟨later, nobody, allOver⟩ := queued.exists_end _ (Nat.le_refl _)
    refine ⟨later, nobody, ?_⟩
    rw [AllOver, moved_append, allOver, arrivals_append, nobody, List.append_nil, List.nil_append]
  · rintro earlier later call number rfl returned
    have stays : (call, .ok number) ∈ (first.moved outcome (earlier ++ later)).results := by
      rw [moved_append]
      exact mem_results_moved returned later
    exact (queued.resolver_of_returned stays).1
  · intro allOver
    exact queued.servedInTurn allOver

/-- Three calls come to a new client together, and a fourth when the fetch of the first one has
failed and nobody has the turn yet: it waits behind the others. The second call loads. -/
theorem initializations_take_turns_behind_failure :
    let outcome := fun call : Nat =>
      if call = 0 then .error (.fault .wrongKind) else .ok (.checked [])
    let first := Round.opening (.new .standard none) .initial
    let moves := [.comes 0, .comes 1, .comes 2, .ends, .comes 3, .wakes, .ends, .wakes, .wakes]
    AllOver outcome first moves ∧
      ServedInTurn outcome [0, 1, 2, 3] (first.log outcome moves) (first.moved outcome moves) ∧
      first.log outcome moves = [.begins 0, .ends 0, .begins 1, .ends 1] := by
  intro outcome first moves
  have allOver : AllOver outcome first moves := by
    unfold AllOver
    decide +kernel
  refine ⟨allOver, ?_, by decide +kernel⟩
  exact (initializations_take_turns outcome .standard none .initial moves).2.2 allOver

end AccessRules.Client
