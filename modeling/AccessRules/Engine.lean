import AccessRules.Notice

/-!
# The engine

What all operations share: the registries of metrics, the resolvers that were built, and
the journal of notices. Operations take the state and give the next one.

* `Engine.tell` — write a notice to the journal, and count it in the registry of a collector;
* `Engine.decide` — decide a request by one of the resolvers;
* `Engine.allowedActions` — list what a subject is granted, one decision for each action.
-/

namespace AccessRules

/-- How the log is set up. -/
structure Logging where
  /-- Are events written as lines? -/
  installed : Bool
  /-- The least level that is written, once it was set. -/
  threshold : Option Log.Level
  deriving DecidableEq, Repr

/-- A log that nobody set up. -/
def Logging.initial : Logging := ⟨false, none⟩

/-- A notice, and how the log was set up when it came. -/
structure JournalEntry where
  notice : Notice
  logging : Logging
  deriving Repr

/-- A resolver of the engine: the registry that its decisions are counted in, if any, and the
resolver itself. -/
structure Service where
  resolver : Resolver
  collector : Option String

/-- The state of an engine. -/
structure Engine where
  /-- The metrics of each registry that holds a collector. -/
  registries : List (String × Metrics)
  journal : List JournalEntry
  logging : Logging
  services : List Service
  /-- How many stores were made. -/
  stores : Nat

namespace Engine

/-- An engine that has just begun. -/
def initial : Engine := ⟨[], [], .initial, [], 0⟩

/-- The metrics of a registry. -/
def metrics? (engine : Engine) (registry : String) : Option Metrics :=
  engine.registries.lookup registry

/-- Change the metrics of a registry. -/
def updateMetrics (engine : Engine) (registry : String) (change : Metrics → Metrics) : Engine :=
  { engine with
    registries := engine.registries.map fun entry =>
      if entry.1 == registry then (entry.1, change entry.2) else entry }

/-- Register the collector of a service. A registry takes one collector only: the metrics of all
collectors have the same names. A registry here holds metrics of collectors and no others, so that
the names are free all together or taken all together. -/
def register (engine : Engine) (registry service : String) : Except Fault Engine :=
  match engine.metrics? registry with
  | some _ => .error .duplicateSeries
  | none =>
      .ok { engine with registries := engine.registries ++ [(registry, .ofService service)] }

/-- Write a notice to the journal, and count it in the registry of the collector. -/
def tell (engine : Engine) (collector : Option String) (notice : Notice) : Engine :=
  let engine := { engine with journal := engine.journal ++ [⟨notice, engine.logging⟩] }
  match collector with
  | some registry => engine.updateMetrics registry (·.observe notice)
  | none => engine

/-- Write notices one after another. -/
def tellAll (engine : Engine) (collector : Option String) (notices : List Notice) : Engine :=
  notices.foldl (fun engine notice => engine.tell collector notice) engine

/-- Take in a new resolver; gives its number. -/
def addService (engine : Engine) (service : Service) : Nat × Engine :=
  (engine.services.length, { engine with services := engine.services ++ [service] })

/-- Make a store. -/
def newStore (engine : Engine) (inputs : List RuleInput) : Except Failure (Store × Engine) := do
  let store ← Store.ofInputs engine.stores inputs
  return (store, { engine with stores := engine.stores + 1 })

/-- Build a resolver from rules in memory; gives its number. -/
def newResolver (engine : Engine) (evaluator : Evaluator) (collector : Option String)
    (inputs : List RuleInput) : Except Failure (Nat × Engine) := do
  let (store, engine) ← engine.newStore inputs
  return engine.addService ⟨⟨store, evaluator⟩, collector⟩

/-- Change the resolver of a number. -/
def setResolver (engine : Engine) (number : Nat) (resolver : Resolver) : Engine :=
  { engine with
    services := engine.services.modify number fun service =>
      { service with resolver := resolver } }

/-- Add a rule to a resolver. -/
def addRule (engine : Engine) (number : Nat) (service : Service) (input : RuleInput) :
    Except Failure (Rule × Engine) := do
  let (rule, store) ← service.resolver.store.add input
  let engine := engine.setResolver number { service.resolver with store := store }
  return (rule, engine.tell none (.ruleAdded rule))

/-- Decide a request. -/
def decide (engine : Engine) (service : Service) (subject : Subject) (resource : Resource)
    (action : Document) : Decision × Engine :=
  let verdict := service.resolver.examine subject resource action
  (verdict.decision,
    engine.tellAll service.collector
      (service.resolver.noticesOf subject resource action verdict))

/-- Decide on each of the actions; gives those that are granted. -/
def grantedAmong (engine : Engine) (service : Service) (subject : Subject)
    (resource : Resource) : List String → List String × Engine
  | [] => ([], engine)
  | action :: rest =>
      let (decision, engine) := engine.decide service subject resource (.text action)
      let (others, engine) := grantedAmong engine service subject resource rest
      (if decision.allowed then action :: others else others, engine)

/-- The labels of the actions that the subject is granted on the resource. -/
def allowedActions (engine : Engine) (service : Service) (subject : Subject)
    (resource : Resource) : List String × Engine :=
  let (actions, engine) := engine.grantedAmong service subject resource
    (service.resolver.actionsFor resource.type)
  (actions.map (permissionLabel (resource.type.text?.getD "")), engine)

end Engine

end AccessRules
