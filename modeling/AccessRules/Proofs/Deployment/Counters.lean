import AccessRules.Proofs.Deployment.Step
import AccessRules.Proofs.Resolver.Listing

/-!
# Counters and decisions

A ledger of every ruling is kept beside a run, in which nothing is counted: an operation enters the
rulings that it makes. **`counters_balance`** says that the counters of a registry and the ledger
agree after any run, and that the rulings are what the operations answer.

The step is `perform_counts`: the counters of every registry grow by the rulings of one operation.
`after_counts` takes it along a run.
-/

namespace AccessRules

/-- The counters stand for the rulings, taken together. -/
structure Metrics.Balances (metrics : Metrics) (rulings : List Ruling) : Prop where
  /-- Each label was counted as often as there are rulings with it. -/
  decisions : ∀ type action allowed, metrics.decisions.count ⟨type, action, allowed⟩ =
    rulings.countP fun ruling => labelText ruling.type = type ∧ labelText ruling.action = action ∧
      ruling.decision.allowed = allowed
  /-- Where all types and actions are texts, the labels are these texts as they are. -/
  texts : (∀ ruling ∈ rulings, ruling.type.text?.isSome ∧ ruling.action.text?.isSome) →
    ∀ type action allowed, metrics.decisions.count ⟨type, action, allowed⟩ =
      rulings.countP fun ruling => ruling.type.text? = some type ∧
        ruling.action.text? = some action ∧ ruling.decision.allowed = allowed
  /-- Each type was counted once for every condition that failed in the rulings on it. -/
  errors : ∀ type, metrics.conditionErrors.count type = Ruling.errors rulings type
  durations : metrics.durations = metrics.decisions.total
  total : metrics.decisions.total = rulings.length

theorem labelText_eq_iff {document : Document} (isText : document.text?.isSome) (text : String) :
    labelText document = text ↔ document.text? = some text := by
  obtain ⟨own, isOwn⟩ := Option.isSome_iff_exists.1 isText
  rw [labelText_of_text? isOwn, isOwn, Option.some.injEq]

theorem Metrics.Accounts.count_label {service : String} {metrics : Metrics}
    {rulings : List Ruling} (accounts : (Metrics.ofService service).Accounts metrics rulings)
    (type action : String) (allowed : Bool) :
    metrics.decisions.count ⟨type, action, allowed⟩ =
      rulings.countP fun ruling => labelText ruling.type = type ∧
        labelText ruling.action = action ∧ ruling.decision.allowed = allowed := by
  rw [accounts.decisions, Ruling.count, Metrics.ofService, Tally.count, Nat.zero_add]
  simp [Ruling.label]

/-- Counters that began at nothing stand for all that they account for. -/
theorem Metrics.Accounts.balances {service : String} {metrics : Metrics} {rulings : List Ruling}
    (accounts : (Metrics.ofService service).Accounts metrics rulings) :
    metrics.Balances rulings where
  decisions := accounts.count_label
  texts plain type action allowed := by
    rw [accounts.count_label]
    refine List.countP_congr fun ruling among => ?_
    obtain ⟨typed, acted⟩ := plain ruling among
    simp only [labelText_eq_iff typed, labelText_eq_iff acted]
  errors type := by
    rw [accounts.errors, Metrics.ofService, Tally.count, Nat.zero_add]
  durations := accounts.durations.trans accounts.total.symm
  total := accounts.total.trans (Nat.zero_add _)

namespace Deployment

/-- The start of a run: nothing but a registry with the collector of a service. -/
def opening (registry service : String) : Deployment :=
  ⟨{ Engine.initial with registries := [(registry, .ofService service)] }, [], 0⟩

/-- All rulings of a run, in order. -/
def ledger (deployment : Deployment) : List Operation → List Ruling
  | [] => []
  | operation :: rest =>
      deployment.rulings operation ++ ledger (deployment.perform operation).2 rest

variable {deployment : Deployment} {operation : Operation} {service : Service}

theorem after_counts (deployment : Deployment) (operations : List Operation) :
    deployment.engine.Counts (deployment.after operations).engine
      (deployment.ledger operations) := by
  induction operations generalizing deployment with
  | nil => exact .of_eq fun _ => rfl
  | cons operation rest ih =>
      exact (deployment.perform_counts operation).trans (ih (deployment.perform operation).2)

theorem AllCoherent.after (all : deployment.AllCoherent) (operations : List Operation) :
    (deployment.after operations).AllCoherent := by
  induction operations generalizing deployment with
  | nil => exact all
  | cons operation rest ih => exact ih (all.perform operation)

theorem opening_allCoherent (registry service : String) :
    (opening registry service).AllCoherent := by
  intro built among
  cases among

/-! ### Rulings and answers -/

theorem rulings_of_asked {question : Question}
    (asked : deployment.asked? operation = some (service, question)) :
    deployment.rulings operation = question.rulings service := by
  rw [rulings, asked]

theorem rulings_of_unasked (unasked : deployment.asked? operation = none) :
    deployment.rulings operation = [] := by
  rw [rulings, unasked]

/-- Only resolvers of the engine are asked. -/
theorem mem_of_asked {question : Question}
    (asked : deployment.asked? operation = some (service, question)) :
    service ∈ deployment.engine.services := by
  cases operation with
  | ask number question' =>
      obtain ⟨service', found, same⟩ := Option.bind_eq_some_iff.1 asked
      obtain ⟨rfl, -⟩ := Prod.mk.inj (Option.some.inj same)
      exact List.mem_of_getElem? found
  | client number use =>
      obtain ⟨client, -, asked⟩ := Option.bind_eq_some_iff.1 asked
      obtain ⟨question', -, asked⟩ := Option.bind_eq_some_iff.1 asked
      obtain ⟨resolver, -, asked⟩ := Option.bind_eq_some_iff.1 asked
      obtain ⟨service', found, same⟩ := Option.bind_eq_some_iff.1 asked
      obtain ⟨rfl, -⟩ := Prod.mk.inj (Option.some.inj same)
      exact List.mem_of_getElem? found
  | _ => cases asked

/-- What is put to a resolver is answered. -/
theorem put_ne_failed (deployment : Deployment) (service : Service) (question : Question)
    (failure : Failure) : (deployment.put service question).1 ≠ .failed failure := by
  intro failed
  cases question <;> cases failed

/-- How the next operation of a deployment answers by what it rules. -/
structure Accountable (deployment : Deployment) (operation : Operation) : Prop where
  /-- One decision, of which the answer tells whether it allows. -/
  can : ∀ service subject resource action,
    deployment.asked? operation = some (service, .can subject resource action) →
    deployment.rulings operation = [Engine.ruling service subject resource action] ∧
      (deployment.perform operation).1 =
        .truth (Engine.ruling service subject resource action).decision.allowed
  /-- One decision, which is the answer. -/
  decide : ∀ service subject resource action,
    deployment.asked? operation = some (service, .decide subject resource action) →
    deployment.rulings operation = [Engine.ruling service subject resource action] ∧
      (deployment.perform operation).1 =
        .decision (Engine.ruling service subject resource action).decision
  /-- One decision on each action that the store's rules for the type mention; the answer has the
  labels of those that allow. -/
  list : ∀ service subject resource,
    deployment.asked? operation = some (service, .list subject resource) →
    ∃ actions : List String, actions.Nodup ∧
      (∀ action, action ∈ actions ↔ ∃ rule ∈ service.resolver.store.rules,
        resource.type.text? = some rule.resource ∧ rule.action = action) ∧
      deployment.rulings operation = actions.map (fun action =>
        Engine.ruling service subject resource (.text action)) ∧
      (deployment.perform operation).1 = .labels ((actions.filter fun action =>
        (Engine.ruling service subject resource (.text action)).decision.allowed).map
          (permissionLabel (resource.type.text?.getD "")))
  /-- What asks no resolver rules nothing, and leaves these counters of every registry alone. -/
  unasked : deployment.asked? operation = none → deployment.rulings operation = [] ∧
    deployment.engine.Counts (deployment.perform operation).2.engine []
  /-- What fails asked no resolver. -/
  failed : ∀ failure, (deployment.perform operation).1 = .failed failure →
    deployment.asked? operation = none

theorem AllCoherent.accountable (all : deployment.AllCoherent) (operation : Operation) :
    deployment.Accountable operation where
  can service subject resource action asked := by
    rw [rulings_of_asked asked, perform_of_asked asked]
    exact ⟨rfl, rfl⟩
  decide service subject resource action asked := by
    rw [rulings_of_asked asked, perform_of_asked asked]
    exact ⟨rfl, rfl⟩
  list service subject resource asked := by
    have coherent := all service (mem_of_asked asked)
    rw [rulings_of_asked asked, perform_of_asked asked]
    refine ⟨service.resolver.actionsFor resource.type, Resolver.distinct_nodup _, ?_, rfl, ?_⟩
    · intro action
      rw [Resolver.actionsFor, Resolver.mem_distinct, coherent.forResource_eq]
      simp [and_assoc]
    · exact congrArg Answer.labels (deployment.engine.allowedActions_fst service subject resource)
  unasked none := by
    have counts := deployment.perform_counts operation
    rw [rulings_of_unasked none] at counts
    exact ⟨rulings_of_unasked none, counts⟩
  failed failure came := by
    cases asked : deployment.asked? operation with
    | none => rfl
    | some entry =>
        rw [perform_of_asked asked] at came
        exact absurd came (deployment.put_ne_failed entry.1 entry.2 failure)

/-- After any run, the counters of a registry stand for the rulings of the run that are counted in
it, and the next operation, whatever it is, answers by what it rules. -/
theorem counters_balance (registry service : String) (operations : List Operation) :
    let now := (opening registry service).after operations
    ∃ metrics, now.engine.metrics? registry = some metrics ∧
      metrics.Balances
        (Ruling.countedIn registry ((opening registry service).ledger operations)) ∧
      ∀ operation, now.Accountable operation := by
  intro now
  have begun : (opening registry service).engine.metrics? registry =
      some (.ofService service) := by
    simp [opening, Engine.metrics?]
  obtain ⟨metrics, found, accounts⟩ := after_counts _ operations registry _ begun
  have coherent := (opening_allCoherent registry service).after operations
  exact ⟨metrics, found, accounts.balances, coherent.accountable⟩

end Deployment

end AccessRules
