import AccessRules.Proofs.Deployment.Step
import AccessRules.Proofs.Resolver.Listing

/-!
# The life of a client

A client that is asked one thing after another has two states: it has no resolver, or it has one.
The first initialization that brings rules takes it from the one to the other, and nothing takes it
back. **`lifetime`** tells what can be observed in either state, whatever else goes on in the
deployment; `Uninitialized` and `Initialized` are the two descriptions.

The client is followed as a record. As long as no initialization brought rules it is the very
client that was made (`fresh_perform`), and afterwards it is that client with a resolver
(`held_perform`); the rules of the resolver are followed by `after_serves`.
-/

namespace AccessRules

/-- What an initialization brings: rules, or its failure. Anything else that is asked of a client
brings nothing. -/
def Client.Operation.brought? : Client.Operation → Option (Except Failure (List Rule))
  | .initializeByFetch fetch => some fetch.outcome.rules
  | .initializeFromRules given => some (do Store.rulesOf (← given))
  | _ => none

namespace Engine

variable {engine : Engine} {number : Nat} {rules : List Rule} {evaluator : Evaluator}
  {service : Service}

/-- The listing depends on the rules and the evaluator alone, as the decision does. -/
theorem Serves.allowedActions_eq (serves : engine.Serves number rules evaluator service)
    (subject : Subject) (resource : Resource) :
    (engine.allowedActions service subject resource).1 =
      (Resolver.over rules evaluator).allowedActions subject resource := by
  have alike : service.resolver.store.view = (Resolver.over rules evaluator).store.view :=
    serves.view_eq
  have actions : service.resolver.actionsFor resource.type =
      (Resolver.over rules evaluator).actionsFor resource.type := by
    rw [Resolver.actionsFor, Resolver.actionsFor, Store.forResource, Store.forResource, alike]
  have decisions (action : String) : service.resolver.can subject resource (.text action) =
      (Resolver.over rules evaluator).can subject resource (.text action) :=
    congrArg Decision.allowed (serves.decide_eq subject resource (.text action))
  rw [allowedActions_fst, Resolver.allowedActions, Resolver.allowedActions, actions]
  simp only [decisions]

end Engine

namespace Deployment

variable {deployment : Deployment} {operation : Operation} {number resolver : Nat}
  {evaluator : Evaluator} {collector : Option String} {use : Client.Operation}

theorem perform_client {client : Client} (found : deployment.clients[number]? = some client)
    (use : Client.Operation) :
    deployment.perform (.client number use) = deployment.useClient number client use := by
  simp only [perform, found]

/-- A client that is put back in its own place changes nothing. -/
theorem clients_set {client : Client} (found : deployment.clients[number]? = some client) :
    deployment.clients.set number client = deployment.clients := by
  obtain ⟨inside, there⟩ := List.getElem?_eq_some_iff.1 found
  rw [← there, List.set_getElem_self]

/-- Whoever is put in the place of a client is found there. -/
theorem clients_getElem?_set {client : Client}
    (found : deployment.clients[number]? = some client) (next : Client) :
    (deployment.clients.set number next)[number]? = some next := by
  obtain ⟨inside, -⟩ := List.getElem?_eq_some_iff.1 found
  exact List.getElem?_set_self inside

/-- Rules that are given come from inputs that describe them. -/
theorem given_of_rules {given : Given} {rules : List Rule}
    (brought : (do Store.rulesOf (← given)) = .ok rules) :
    ∃ inputs, given = .ok inputs ∧ Describe inputs rules := by
  cases given with
  | error failure => cases brought
  | ok inputs => exact ⟨inputs, rfl, Store.rulesOf_eq_ok brought⟩

theorem initializeFromGiven_of_error {client : Client} {given : Given} {failure : Failure}
    (fresh : client.resolver = none) (brought : (do Store.rulesOf (← given)) = .error failure) :
    deployment.initializeFromGiven client given = (.error failure, client, deployment.engine) := by
  cases given with
  | error other =>
      obtain rfl := Except.error.inj brought
      simp [initializeFromGiven, Client.isInitialized, fresh]
  | ok inputs =>
      have refused : deployment.engine.newResolver client.evaluator client.collector inputs =
          .error failure :=
        Engine.newResolver_of_error brought deployment.engine client.evaluator client.collector
      simp [initializeFromGiven, Client.initializeFromRules, Client.isInitialized, fresh, refused]

/-! ### Without a resolver -/

/-- The client of the number has no resolver. -/
structure Uninitialized (deployment : Deployment) (number : Nat) : Prop where
  isInitialized : deployment.perform (.client number .isInitialized) = (.truth false, deployment)
  /-- It gives no resolver and passes nothing on. -/
  refuses : ∀ use, use = .getResolver ∨ use.question?.isSome →
    deployment.perform (.client number use) = (.failed (.report .notInitialized), deployment)
  /-- An initialization that brings no rules fails as it was let down, and leaves every client and
  every resolver exactly as it was. -/
  fails : ∀ use failure, use.brought? = some (.error failure) →
    (deployment.perform (.client number use)).1 = .failed failure ∧
      (deployment.perform (.client number use)).2.clients = deployment.clients ∧
      (deployment.perform (.client number use)).2.engine.services = deployment.engine.services
  /-- One that brings rules succeeds, whatever failed before. -/
  succeeds : ∀ use rules, use.brought? = some (.ok rules) →
    ∃ resolver, (deployment.perform (.client number use)).1 = .resolver resolver
  fetches : ∀ fetch,
    (deployment.perform (.client number (.initializeByFetch fetch))).2.fetches =
      deployment.fetches + 1

/-- A new client takes the resolver over the rules that are brought. -/
theorem fresh_succeeds (fresh : deployment.clients[number]? = some (.new evaluator collector))
    {rules : List Rule} (brought : use.brought? = some (.ok rules)) :
    ∃ resolver service, (deployment.perform (.client number use)).1 = .resolver resolver ∧
      (deployment.perform (.client number use)).2.clients[number]? =
        some (.withResolver evaluator collector resolver) ∧
      (deployment.perform (.client number use)).2.engine.Serves resolver rules evaluator
        service := by
  rw [perform_client fresh]
  cases use with
  | initializeByFetch fetch =>
      have brings : (fetch.run deployment.engine).1.rules = .ok rules := Option.some.inj brought
      obtain ⟨next, came, built⟩ :=
        Client.initializeByFetch_new_of_ok evaluator collector brings
      refine ⟨(fetch.run deployment.engine).2.services.length,
        (fetch.run deployment.engine).2.built rules evaluator collector, ?_⟩
      simp only [useClient, came, Answer.ofBuilt]
      exact ⟨trivial, clients_getElem?_set fresh _, .of_built built⟩
  | initializeFromRules given =>
      obtain ⟨inputs, rfl, describe⟩ := given_of_rules (Option.some.inj brought)
      have unset : (Client.new evaluator collector).resolver = none := rfl
      obtain ⟨next, service, came, serves⟩ :=
        Client.initializeFromRules_of_describe unset describe deployment.engine
      refine ⟨deployment.engine.services.length, service, ?_⟩
      simp only [useClient, initializeFromGiven, came, Answer.ofBuilt]
      exact ⟨trivial, clients_getElem?_set fresh _, serves⟩
  | _ => cases brought

/-- A new client that is let down stays new, and so does everything else that can be asked. -/
theorem fresh_fails (fresh : deployment.clients[number]? = some (.new evaluator collector))
    {failure : Failure} (brought : use.brought? = some (.error failure)) :
    (deployment.perform (.client number use)).1 = .failed failure ∧
      (deployment.perform (.client number use)).2.clients = deployment.clients ∧
      (deployment.perform (.client number use)).2.engine.services =
        deployment.engine.services := by
  rw [perform_client fresh]
  cases use with
  | initializeByFetch fetch =>
      have brings : (fetch.run deployment.engine).1.rules = .error failure :=
        Option.some.inj brought
      have came := Client.initializeByFetch_new_of_error evaluator collector brings
      simp only [useClient, came, Answer.ofBuilt]
      refine ⟨trivial, clients_set fresh, ?_⟩
      rw [Engine.tell_services]
      exact Engine.tellAll_services ..
  | initializeFromRules given =>
      have came : deployment.initializeFromGiven (.new evaluator collector) given =
          (.error failure, .new evaluator collector, deployment.engine) :=
        initializeFromGiven_of_error rfl (Option.some.inj brought)
      simp only [useClient, came, Answer.ofBuilt]
      exact ⟨trivial, clients_set fresh, trivial⟩
  | _ => cases brought

theorem fresh_uninitialized
    (fresh : deployment.clients[number]? = some (.new evaluator collector)) :
    deployment.Uninitialized number where
  isInitialized := by rw [perform_client fresh]; rfl
  refuses use reads := by
    rw [perform_client fresh]
    cases use with
    | initializeByFetch fetch => simp [Client.Operation.question?] at reads
    | initializeFromRules given => simp [Client.Operation.question?] at reads
    | isInitialized => simp [Client.Operation.question?] at reads
    | _ => rfl
  fails use failure brought := fresh_fails fresh brought
  succeeds use rules brought := by
    obtain ⟨resolver, service, came, -⟩ := fresh_succeeds fresh brought
    exact ⟨resolver, came⟩
  fetches fetch := by rw [perform_client fresh]; rfl

/-- A client that nothing was brought to is the client that was made. -/
theorem fresh_perform (fresh : deployment.clients[number]? = some (.new evaluator collector))
    (barren : ∀ use rules, operation = .client number use → use.brought? ≠ some (.ok rules)) :
    (deployment.perform operation).2.clients[number]? = some (.new evaluator collector) := by
  -- What is about something else leaves the client alone; what is about it either fails to
  -- initialize it or only reads it.
  by_cases mine : ∃ use, operation = .client number use
  · obtain ⟨use, rfl⟩ := mine
    cases brought : use.brought? with
    | some loaded =>
        cases loaded with
        | ok rules => exact absurd brought (barren use rules rfl)
        | error failure =>
            obtain ⟨-, kept, -⟩ := fresh_fails fresh brought
            rw [kept, fresh]
    | none =>
        have uninitialized := fresh_uninitialized fresh
        cases use with
        | initializeByFetch fetch => cases brought
        | initializeFromRules given => cases brought
        | isInitialized => rw [uninitialized.isInitialized, fresh]
        | getResolver => rw [uninitialized.refuses _ (Or.inl rfl), fresh]
        | can subject resource action => rw [uninitialized.refuses _ (Or.inr rfl), fresh]
        | list subject resource => rw [uninitialized.refuses _ (Or.inr rfl), fresh]
  · exact perform_client_of_apart fresh fun use same => mine ⟨use, same⟩

/-! ### With a resolver -/

/-- The client of the number has the resolver, whose rules these are. -/
structure Initialized (deployment : Deployment) (number resolver : Nat) (rules : List Rule)
    (evaluator : Evaluator) : Prop where
  isInitialized : deployment.perform (.client number .isInitialized) = (.truth true, deployment)
  getResolver : deployment.perform (.client number .getResolver) = (.resolver resolver, deployment)
  /-- Any other initialization is refused before it fetches, and nothing at all changes. -/
  refuses : ∀ use, use.brought?.isSome →
    deployment.perform (.client number use) = (.failed (.report .alreadyInitialized), deployment)
  shows : deployment.perform (.rules resolver) = (.rules rules, deployment)
  /-- Asking the client is asking its resolver. -/
  delegates : ∀ use question, use.question? = some question →
    deployment.perform (.client number use) = deployment.perform (.ask resolver question)
  can : ∀ subject resource action,
    (deployment.perform (.client number (.can subject resource action))).1 =
      .truth ((Resolver.over rules evaluator).can subject resource action)
  list : ∀ subject resource, (deployment.perform (.client number (.list subject resource))).1 =
    .labels ((Resolver.over rules evaluator).allowedActions subject resource)

/-- A client with a resolver refuses to be initialized, whatever it would bring. -/
theorem held_refuses
    (held : deployment.clients[number]? = some (.withResolver evaluator collector resolver))
    (brings : use.brought?.isSome) :
    deployment.perform (.client number use) =
      (.failed (.report .alreadyInitialized), deployment) := by
  rw [perform_client held]
  cases use with
  | initializeByFetch fetch =>
      have refused : (Client.withResolver evaluator collector resolver).start 0 =
          (.ended 0 (.error (.report .alreadyInitialized)),
            .withResolver evaluator collector resolver) := rfl
      simp only [useClient, Client.initializeByFetch, refused, clients_set held]
      rfl
  | initializeFromRules given =>
      have refused : deployment.initializeFromGiven (.withResolver evaluator collector resolver)
          given = (.error (.report .alreadyInitialized),
            .withResolver evaluator collector resolver, deployment.engine) := by
        cases given <;> rfl
      simp only [useClient, refused, clients_set held]
      rfl
  | _ => cases brings

theorem held_delegates
    (held : deployment.clients[number]? = some (.withResolver evaluator collector resolver))
    {question : Question} (asks : use.question? = some question) :
    deployment.perform (.client number use) = deployment.perform (.ask resolver question) := by
  rw [perform_client held]
  cases use with
  | can subject resource action => obtain rfl := Option.some.inj asks; rfl
  | list subject resource => obtain rfl := Option.some.inj asks; rfl
  | _ => cases asks

theorem held_initialized
    (held : deployment.clients[number]? = some (.withResolver evaluator collector resolver))
    {rules : List Rule} {service : Service}
    (serves : deployment.engine.Serves resolver rules evaluator service) :
    deployment.Initialized number resolver rules evaluator where
  isInitialized := by rw [perform_client held]; rfl
  getResolver := by rw [perform_client held]; rfl
  refuses use brings := held_refuses held brings
  shows := by simp only [perform, serves.found, serves.view_eq]
  delegates use question asks := held_delegates held asks
  can subject resource action := by
    have decided := congrArg Decision.allowed (serves.decide_eq subject resource action)
    rw [held_delegates held rfl, perform, putTo, serves.found]
    exact congrArg Answer.truth decided
  list subject resource := by
    rw [held_delegates held rfl, perform, putTo, serves.found]
    exact congrArg Answer.labels (serves.allowedActions_eq subject resource)

/-- A client with a resolver stays as it is, whatever happens. -/
theorem held_perform
    (held : deployment.clients[number]? = some (.withResolver evaluator collector resolver))
    (operation : Operation) :
    (deployment.perform operation).2.clients[number]? =
      some (.withResolver evaluator collector resolver) := by
  by_cases mine : ∃ use, operation = .client number use
  · obtain ⟨use, rfl⟩ := mine
    cases use with
    | initializeByFetch fetch => rw [held_refuses held rfl, held]
    | initializeFromRules given => rw [held_refuses held rfl, held]
    | isInitialized => rw [perform_client held]; exact held
    | getResolver => rw [perform_client held]; exact held
    | can subject resource action =>
        rw [perform_client held, useClient, delegate_clients]
        exact held
    | list subject resource =>
        rw [perform_client held, useClient, delegate_clients]
        exact held
  · exact perform_client_of_apart held fun use same => mine ⟨use, same⟩

/-! ### Runs -/

/-- No initialization of the client among the operations brings rules. -/
def Barren (number : Nat) (operations : List Operation) : Prop :=
  ∀ use rules, .client number use ∈ operations → use.brought? ≠ some (.ok rules)

theorem barren_cons {rest : List Operation} :
    Barren number (operation :: rest) ↔ Barren number [operation] ∧ Barren number rest := by
  constructor
  · intro barren
    refine ⟨fun use rules among => barren use rules ?_, fun use rules among => barren use rules ?_⟩
    · exact List.mem_cons.2 (Or.inl (List.mem_singleton.1 among))
    · exact List.mem_cons_of_mem _ among
  · rintro ⟨first, later⟩ use rules among
    obtain same | among := List.mem_cons.1 among
    · exact first use rules (List.mem_singleton.2 same)
    · exact later use rules among

/-- Some initialization brings rules, and there is a first one that does, or none does. -/
theorem barren_or_first (number : Nat) (operations : List Operation) :
    Barren number operations ∨ ∃ before use rules after,
      operations = before ++ .client number use :: after ∧ Barren number before ∧
        use.brought? = some (.ok rules) := by
  induction operations with
  | nil => exact Or.inl fun _ _ among => nomatch among
  | cons operation rest ih =>
      by_cases first : Barren number [operation]
      · obtain barren | ⟨before, use, rules, after, split, barren, brought⟩ := ih
        · exact Or.inl (barren_cons.2 ⟨first, barren⟩)
        · refine Or.inr ⟨operation :: before, use, rules, after, ?_, ?_, brought⟩
          · rw [split, List.cons_append]
          · exact barren_cons.2 ⟨first, barren⟩
      · simp only [Barren, not_forall, ne_eq, not_not] at first
        obtain ⟨use, rules, among, brought⟩ := first
        obtain rfl := List.mem_singleton.1 among
        exact Or.inr ⟨[], use, rules, rest, rfl, (fun _ _ none => nomatch none), brought⟩

theorem fresh_after (fresh : deployment.clients[number]? = some (.new evaluator collector))
    {operations : List Operation} (barren : Barren number operations) :
    (deployment.after operations).clients[number]? = some (.new evaluator collector) := by
  induction operations generalizing deployment with
  | nil => exact fresh
  | cons operation rest ih =>
      obtain ⟨first, later⟩ := barren_cons.1 barren
      refine ih (fresh_perform fresh fun use rules same => ?_) later
      exact first use rules (List.mem_singleton.2 same.symm)

theorem held_after
    (held : deployment.clients[number]? = some (.withResolver evaluator collector resolver))
    (operations : List Operation) :
    (deployment.after operations).clients[number]? =
      some (.withResolver evaluator collector resolver) := by
  induction operations generalizing deployment with
  | nil => exact held
  | cons operation rest ih => exact ih (held_perform held operation)

theorem after_append (deployment : Deployment) (earlier later : List Operation) :
    deployment.after (earlier ++ later) = (deployment.after earlier).after later :=
  List.foldl_append

/-- A client is without a resolver up to the first initialization that brings rules, and has the
resolver over these rules, and over those that are added to it, from then on. -/
theorem lifetime (deployment : Deployment) (evaluator : Evaluator) (collector : Option String)
    (operations : List Operation) :
    let number := deployment.clients.length
    let first := (deployment.perform (.newClient evaluator collector)).2
    (Barren number operations ∧ (first.after operations).Uninitialized number) ∨
    ∃ before use rules after resolver, operations = before ++ .client number use :: after ∧
      Barren number before ∧ use.brought? = some (.ok rules) ∧
      ((first.after before).perform (.client number use)).1 = .resolver resolver ∧
      (first.after operations).Initialized number resolver (rules ++ addedTo resolver after)
        evaluator := by
  intro number first
  have fresh : first.clients[number]? = some (.new evaluator collector) :=
    List.getElem?_concat_length
  -- The run is split at the first initialization that brings rules: up to it the client stays as it
  -- was made, behind it the client stays with its resolver.
  obtain barren | ⟨before, use, rules, after, rfl, barren, brought⟩ :=
    barren_or_first number operations
  · exact Or.inl ⟨barren, fresh_uninitialized (fresh_after fresh barren)⟩
  · obtain ⟨resolver, service, came, held, serves⟩ :=
      fresh_succeeds (fresh_after fresh barren) brought
    obtain ⟨grown, serves'⟩ := after_serves serves after
    refine Or.inr ⟨before, use, rules, after, resolver, rfl, barren, brought, came, ?_⟩
    rw [after_append, after_cons]
    exact held_initialized (held_after held after) serves'

end Deployment

end AccessRules
