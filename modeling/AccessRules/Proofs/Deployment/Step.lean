import AccessRules.Deployment
import AccessRules.Proofs.Engine.Progress

/-!
# One operation of a deployment

What an operation leaves of the engine and of the clients. It asks one resolver at most (`asked?`),
and what it rules is what that resolver rules; it adds at most one rule to one resolver
(`addedTo`); and it changes no client but the one that it is about (`perform_clients_cases`). Runs
are reasoned about by these lemmas alone.
-/

namespace AccessRules

/-- The rulings of a resolver on a question: a listing decides each action once that the rules for
the type mention. -/
def Question.rulings (service : Service) : Question → List Ruling
  | .can subject resource action | .decide subject resource action =>
      [Engine.ruling service subject resource action]
  | .list subject resource => (service.resolver.actionsFor resource.type).map fun action =>
      Engine.ruling service subject resource (.text action)

/-- What a client is asked that it passes on to its resolver. -/
def Client.Operation.question? : Client.Operation → Option Question
  | .can subject resource action => some (.can subject resource action)
  | .list subject resource => some (.list subject resource)
  | _ => none

namespace Deployment

/-- The resolver that an operation asks, itself or through a client, and the question. -/
def asked? (deployment : Deployment) : Operation → Option (Service × Question)
  | .ask number question => do
      let service ← deployment.engine.services[number]?
      return (service, question)
  | .client number use => do
      let client ← deployment.clients[number]?
      let question ← use.question?
      let resolver ← client.resolver
      let service ← deployment.engine.services[resolver]?
      return (service, question)
  | _ => none

/-- The rulings that an operation makes. -/
def rulings (deployment : Deployment) (operation : Operation) : List Ruling :=
  match deployment.asked? operation with
  | some (service, question) => question.rulings service
  | none => []

/-- The rules that operations add to the resolver of a number, in order. -/
def addedTo (number : Nat) (operations : List Operation) : List Rule :=
  operations.filterMap fun operation => match operation with
    | .addRule other input => if other = number then input.toRule.toOption else none
    | _ => none

/-- An operation adds a rule, or it leaves the resolvers that are there as they are. -/
theorem Operation.adds_or_stays (operation : Operation) :
    (∃ number input, operation = .addRule number input) ∨
      ∀ number input, operation ≠ .addRule number input := by
  cases operation with
  | addRule number input => exact Or.inl ⟨number, input, rfl⟩
  | _ => exact Or.inr fun number input same => nomatch same

variable {deployment : Deployment} {operation : Operation} {number : Nat}

@[simp] theorem addedTo_nil (number : Nat) : addedTo number [] = [] := rfl

theorem addedTo_cons (number : Nat) (operation : Operation) (rest : List Operation) :
    addedTo number (operation :: rest) = addedTo number [operation] ++ addedTo number rest := by
  rw [← List.singleton_append]
  exact List.filterMap_append

theorem addedTo_of_stays (number : Nat)
    (stays : ∀ other input, operation ≠ .addRule other input) :
    addedTo number [operation] = [] := by
  cases operation with
  | addRule other input => exact absurd rfl (stays other input)
  | _ => rfl

@[simp] theorem after_nil (deployment : Deployment) : deployment.after [] = deployment := rfl

@[simp] theorem after_cons (deployment : Deployment) (operation : Operation)
    (rest : List Operation) :
    deployment.after (operation :: rest) = (deployment.perform operation).2.after rest := rfl

/-! ### Asking -/

@[simp] theorem put_clients (deployment : Deployment) (service : Service) (question : Question) :
    (deployment.put service question).2.clients = deployment.clients := by
  cases question <;> rfl

@[simp] theorem putTo_clients (deployment : Deployment) (number : Nat) (question : Question) :
    (deployment.putTo number question).2.clients = deployment.clients := by
  rw [putTo]
  split
  · exact put_clients ..
  · rfl

@[simp] theorem delegate_clients (deployment : Deployment) (client : Client)
    (question : Question) :
    (deployment.delegate client question).2.clients = deployment.clients := by
  rw [delegate]
  split
  · exact putTo_clients ..
  · rfl

theorem put_proceeds (deployment : Deployment) (service : Service) (question : Question) :
    deployment.engine.Proceeds (deployment.put service question).2.engine
      (question.rulings service) := by
  cases question with
  | can subject resource action => exact deployment.engine.decide_proceeds ..
  | decide subject resource action => exact deployment.engine.decide_proceeds ..
  | list subject resource => exact deployment.engine.allowedActions_proceeds ..

/-- An operation that asks a resolver does nothing else. -/
theorem perform_of_asked {service : Service} {question : Question}
    (asked : deployment.asked? operation = some (service, question)) :
    deployment.perform operation = deployment.put service question := by
  cases operation with
  | ask number question' =>
      cases found : deployment.engine.services[number]? with
      | none => simp [asked?, found] at asked
      | some service' =>
          obtain ⟨rfl, rfl⟩ : service' = service ∧ question' = question := by
            simpa [asked?, found] using asked
          simp only [perform, putTo, found]
  | client number use =>
      obtain ⟨client, found, question', use?, resolver, held, service', serves, same⟩ :
          ∃ client, deployment.clients[number]? = some client ∧
            ∃ question', use.question? = some question' ∧
            ∃ resolver, client.resolver = some resolver ∧
            ∃ service', deployment.engine.services[resolver]? = some service' ∧
              (service', question') = (service, question) := by
        simpa [asked?, Option.bind_eq_some_iff] using asked
      obtain ⟨rfl, rfl⟩ := Prod.mk.inj same
      have delegated : deployment.delegate client question' =
          deployment.put service' question' := by
        simp only [delegate, Client.getResolver, held, putTo, serves]
      cases use with
      | can subject resource action =>
          obtain rfl := Option.some.inj use?
          simpa only [perform, found, useClient] using delegated
      | list subject resource =>
          obtain rfl := Option.some.inj use?
          simpa only [perform, found, useClient] using delegated
      | _ => cases use?
  | _ => cases asked

/-- A question that does not reach a resolver leaves everything as it is. -/
theorem delegate_of_unasked {client : Client} {use : Client.Operation} {question : Question}
    (found : deployment.clients[number]? = some client) (use? : use.question? = some question)
    (unasked : deployment.asked? (.client number use) = none) :
    (deployment.delegate client question).2 = deployment := by
  rw [delegate, Client.getResolver]
  cases held : client.resolver with
  | none => rfl
  | some resolver =>
      cases serves : deployment.engine.services[resolver]? with
      | none => simp only [putTo, serves]
      | some service => simp [asked?, found, use?, held, serves] at unasked

/-! ### The engine -/

/-- Listing the rules of a resolver changes nothing. -/
theorem perform_rules (deployment : Deployment) (number : Nat) :
    (deployment.perform (.rules number)).2 = deployment := by
  rw [perform]
  split <;> rfl

theorem initializeFromGiven_proceeds (deployment : Deployment) (client : Client) (given : Given) :
    deployment.engine.Proceeds (deployment.initializeFromGiven client given).2.2 [] := by
  cases given with
  | ok inputs => exact client.initializeFromRules_proceeds deployment.engine inputs
  | error failure => exact .refl deployment.engine

theorem useClient_proceeds {client : Client} {use : Client.Operation}
    (found : deployment.clients[number]? = some client)
    (unasked : deployment.asked? (.client number use) = none) :
    deployment.engine.Proceeds (deployment.useClient number client use).2.engine [] := by
  cases use with
  | initializeByFetch fetch =>
      exact client.initializeByFetch_proceeds fetch.run_proceeds deployment.engine
  | initializeFromRules given => exact deployment.initializeFromGiven_proceeds client given
  | isInitialized => exact .refl deployment.engine
  | getResolver => exact .refl deployment.engine
  | can subject resource action =>
      rw [useClient, delegate_of_unasked found rfl unasked]
      exact .refl deployment.engine
  | list subject resource =>
      rw [useClient, delegate_of_unasked found rfl unasked]
      exact .refl deployment.engine

/-- Whatever is asked of a deployment, its engine makes the rulings of that operation and no
others. Only the adding of a rule is left out: it changes a resolver. -/
theorem perform_proceeds (deployment : Deployment) {operation : Operation}
    (stays : ∀ number input, operation ≠ .addRule number input) :
    deployment.engine.Proceeds (deployment.perform operation).2.engine
      (deployment.rulings operation) := by
  -- An operation that asks a resolver is nothing but the question. The others rule nothing, each
  -- by the lemma of the function that it calls.
  cases asked : deployment.asked? operation with
  | some entry =>
      obtain ⟨service, question⟩ := entry
      rw [rulings, asked, perform_of_asked asked]
      exact deployment.put_proceeds service question
  | none =>
      rw [rulings, asked]
      cases operation with
      | newResolver evaluator collector given =>
          cases given with
          | error failure => exact .refl deployment.engine
          | ok inputs =>
              cases made : deployment.engine.newResolver evaluator collector inputs with
              | error failure =>
                  simp only [perform, made, bind, Except.bind]
                  exact .refl deployment.engine
              | ok built =>
                  simp only [perform, made, bind, Except.bind]
                  exact Engine.newResolver_proceeds made
      | loadFromSource evaluator collector delivered =>
          exact deployment.engine.finishLoad_proceeds ..
      | loadFromFetch evaluator collector fetched =>
          exact deployment.engine.finishLoad_proceeds ..
      | newClient evaluator collector => exact .refl deployment.engine
      | start registry attempt =>
          have started := deployment.engine.attempt_proceeds registry attempt
          cases came : deployment.engine.attempt registry attempt with
          | mk result next =>
            rw [came] at started
            cases result with
            | ok client => simpa only [perform, came, addClient] using started
            | error failure => simpa only [perform, came] using started
      | client number use =>
          cases found : deployment.clients[number]? with
          | none =>
              simp only [perform, found]
              exact .refl deployment.engine
          | some client =>
              simp only [perform, found]
              exact useClient_proceeds found asked
      | addRule number input => exact absurd rfl (stays number input)
      | rules number =>
          rw [perform_rules]
          exact .refl deployment.engine
      | ask number question =>
          cases found : deployment.engine.services[number]? with
          | none =>
              simp only [perform, putTo, found]
              exact .refl deployment.engine
          | some service => simp [asked?, found] at asked

/-! ### A rule that is added -/

/-- A rule is added to the resolver of the number, or nothing changes. -/
theorem perform_addRule_cases (deployment : Deployment) (number : Nat) (input : RuleInput) :
    (∃ service rule next, deployment.engine.services[number]? = some service ∧
      input.toRule = .ok rule ∧ deployment.engine.addRule number service input = .ok (rule, next) ∧
      deployment.perform (.addRule number input) =
        (.added rule, { deployment with engine := next })) ∨
    ((deployment.engine.services[number]? = none ∨ ∃ failure, input.toRule = .error failure) ∧
      (deployment.perform (.addRule number input)).2 = deployment) := by
  cases found : deployment.engine.services[number]? with
  | none => exact Or.inr ⟨Or.inl rfl, by simp only [perform, found]⟩
  | some service =>
      cases made : input.toRule with
      | error failure =>
          have refused := Engine.addRule_of_refused made deployment.engine number service
          exact Or.inr ⟨Or.inr ⟨failure, rfl⟩, by simp only [perform, found, refused]⟩
      | ok rule =>
          have added := Engine.addRule_of_made made deployment.engine number service
          exact Or.inl ⟨service, rule, _, rfl, rfl, added, by simp only [perform, found, added]⟩

theorem perform_addRule_counts (deployment : Deployment) (number : Nat) (input : RuleInput) :
    deployment.engine.Counts (deployment.perform (.addRule number input)).2.engine [] := by
  obtain ⟨service, rule, next, -, made, added, performed⟩ | ⟨-, kept⟩ :=
    deployment.perform_addRule_cases number input
  · rw [performed]
    rw [Engine.addRule_of_made made] at added
    obtain ⟨-, rfl⟩ := Prod.mk.inj (Except.ok.inj added)
    exact .of_eq fun registry => by rw [Engine.metrics?_tell]; rfl
  · rw [kept]
    exact .of_eq fun _ => rfl

/-- The counters account for the rulings of any operation. -/
theorem perform_counts (deployment : Deployment) (operation : Operation) :
    deployment.engine.Counts (deployment.perform operation).2.engine
      (deployment.rulings operation) := by
  obtain ⟨number, input, rfl⟩ | stays := operation.adds_or_stays
  · exact deployment.perform_addRule_counts number input
  · exact (deployment.perform_proceeds stays).counts

/-- A rule that is added to another resolver leaves this one alone; one that is added to this
resolver stands behind the others. -/
theorem perform_addRule_serves {rules : List Rule} {evaluator : Evaluator} {service : Service}
    (serves : deployment.engine.Serves number rules evaluator service) (other : Nat)
    (input : RuleInput) :
    ∃ grown, (deployment.perform (.addRule other input)).2.engine.Serves number
      (rules ++ addedTo number [.addRule other input]) evaluator grown := by
  obtain ⟨service', rule, next, found, made, added, performed⟩ | ⟨refused, kept⟩ :=
    deployment.perform_addRule_cases other input
  · rw [performed]
    by_cases mine : other = number
    · subst mine
      obtain rfl := Option.some.inj (serves.found.symm.trans found)
      obtain ⟨next', grown, added', serves'⟩ := serves.addRule made
      obtain ⟨-, rfl⟩ := Prod.mk.inj (Except.ok.inj (added'.symm.trans added))
      exact ⟨grown, by simpa [addedTo, made, Except.toOption] using serves'⟩
    · have nothing : addedTo number [.addRule other input] = [] := by simp [addedTo, mine]
      rw [Engine.addRule_of_made made] at added
      obtain ⟨-, rfl⟩ := Prod.mk.inj (Except.ok.inj added)
      rw [nothing, List.append_nil]
      refine ⟨service, { serves with found := ?_ }⟩
      simpa [Engine.setResolver, List.getElem?_modify, mine] using serves.found
  · have nothing : addedTo number [.addRule other input] = [] := by
      by_cases mine : other = number
      · subst mine
        obtain missing | ⟨failure, fails⟩ := refused
        · rw [serves.found] at missing
          cases missing
        · simp [addedTo, fails, Except.toOption]
      · simp [addedTo, mine]
    rw [kept, nothing, List.append_nil]
    exact ⟨service, serves⟩

/-- A resolver over rules is one over the same rules and what is added to it, whatever else
happens. -/
theorem perform_serves {rules : List Rule} {evaluator : Evaluator} {service : Service}
    (serves : deployment.engine.Serves number rules evaluator service) (operation : Operation) :
    ∃ grown, (deployment.perform operation).2.engine.Serves number
      (rules ++ addedTo number [operation]) evaluator grown := by
  obtain ⟨other, input, rfl⟩ | stays := operation.adds_or_stays
  · exact perform_addRule_serves serves other input
  · rw [addedTo_of_stays number stays, List.append_nil]
    exact ⟨service, { serves with
      found := (deployment.perform_proceeds stays).grows.getElem? serves.found }⟩

theorem after_serves {rules : List Rule} {evaluator : Evaluator} {service : Service}
    (serves : deployment.engine.Serves number rules evaluator service)
    (operations : List Operation) :
    ∃ grown, (deployment.after operations).engine.Serves number
      (rules ++ addedTo number operations) evaluator grown := by
  induction operations generalizing deployment rules service with
  | nil => exact ⟨service, by simpa using serves⟩
  | cons operation rest ih =>
      obtain ⟨grown, serves'⟩ := perform_serves serves operation
      rw [after_cons, addedTo_cons, ← List.append_assoc]
      exact ih serves'

/-! ### The stores -/

/-- Every resolver of the engine shows the rules that its store holds. -/
def AllCoherent (deployment : Deployment) : Prop :=
  ∀ service ∈ deployment.engine.services, service.resolver.store.Coherent

theorem AllCoherent.addRule (all : deployment.AllCoherent) (number : Nat) (input : RuleInput) :
    (deployment.perform (.addRule number input)).2.AllCoherent := by
  obtain ⟨service, rule, next, found, made, added, performed⟩ | ⟨-, kept⟩ :=
    deployment.perform_addRule_cases number input
  · rw [performed]
    rw [Engine.addRule_of_made made] at added
    obtain ⟨-, rfl⟩ := Prod.mk.inj (Except.ok.inj added)
    intro changed among
    rw [Engine.tell_services] at among
    obtain ⟨place, there⟩ := List.mem_iff_getElem?.1 among
    rw [Engine.setResolver, List.getElem?_modify] at there
    obtain ⟨before, here, rfl⟩ := Option.map_eq_some_iff.1 there
    -- The store that a rule was added to keeps no snapshot, the others are those of before.
    by_cases mine : number = place
    · rw [if_pos mine]
      exact Store.coherent_of_cached_eq_none rfl
    · rw [if_neg mine]
      exact all before (List.mem_of_getElem? here)
  · rw [kept]
    exact all

theorem AllCoherent.perform (all : deployment.AllCoherent) (operation : Operation) :
    (deployment.perform operation).2.AllCoherent := by
  obtain ⟨number, input, rfl⟩ | stays := operation.adds_or_stays
  · exact all.addRule number input
  · obtain ⟨more, grown, coherent⟩ := (deployment.perform_proceeds stays).grows
    intro service among
    rw [grown] at among
    obtain among | among := List.mem_append.1 among
    · exact all service among
    · exact coherent service among

/-! ### The clients -/

/-- An operation leaves the clients as they are, adds one behind them, or changes the one that it
is about. -/
theorem perform_clients_cases (deployment : Deployment) (operation : Operation) :
    (deployment.perform operation).2.clients = deployment.clients ∨
    (∃ client, (deployment.perform operation).2.clients = deployment.clients ++ [client]) ∨
    ∃ number use client, operation = .client number use ∧
      (deployment.perform operation).2.clients = deployment.clients.set number client := by
  cases operation with
  | newResolver evaluator collector given =>
      refine Or.inl ?_
      rw [perform]
      split <;> rfl
  | newClient evaluator collector => exact Or.inr (Or.inl ⟨_, rfl⟩)
  | start registry attempt =>
      rw [perform]
      split
      · exact Or.inr (Or.inl ⟨_, rfl⟩)
      · exact Or.inl rfl
  | client number use =>
      cases found : deployment.clients[number]? with
      | none => exact Or.inl (by simp only [perform, found])
      | some client =>
          simp only [perform, found]
          cases use with
          | initializeByFetch fetch => exact Or.inr (Or.inr ⟨number, _, _, rfl, rfl⟩)
          | initializeFromRules given => exact Or.inr (Or.inr ⟨number, _, _, rfl, rfl⟩)
          | isInitialized => exact Or.inl rfl
          | getResolver => exact Or.inl rfl
          | can subject resource action => exact Or.inl (delegate_clients ..)
          | list subject resource => exact Or.inl (delegate_clients ..)
  | addRule number input =>
      obtain ⟨_, _, _, -, -, -, performed⟩ | ⟨-, kept⟩ :=
        deployment.perform_addRule_cases number input
      · exact Or.inl (by rw [performed])
      · exact Or.inl (by rw [kept])
  | rules number => exact Or.inl (by rw [perform_rules])
  | ask number question => exact Or.inl (putTo_clients ..)
  | _ => exact Or.inl rfl

/-- A client stays as it is when an operation is about something else. -/
theorem perform_client_of_apart {client : Client}
    (found : deployment.clients[number]? = some client)
    (apart : ∀ use, operation ≠ .client number use) :
    (deployment.perform operation).2.clients[number]? = some client := by
  obtain kept | ⟨newcomer, grown⟩ | ⟨other, use, changed, rfl, set⟩ :=
    deployment.perform_clients_cases operation
  · rw [kept, found]
  · obtain ⟨inside, -⟩ := List.getElem?_eq_some_iff.1 found
    rw [grown, List.getElem?_append_left inside, found]
  · have differs : other ≠ number := fun same => apart use (same ▸ rfl)
    rw [set, List.getElem?_set_ne differs, found]

end Deployment

end AccessRules
