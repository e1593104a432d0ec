import AccessRules.Rule

/-!
# The store of rules

Rules are only ever added, at the end. Readers get a snapshot, which stays as it is when rules are
added later. A store keeps the snapshot that it gave last and gives the same one again until a
rule is added; so snapshots have an identity, their store and the number of the snapshots that the
store made before.

* `Store.ofInputs`, `add`, `all`, `view`, `size`, `forResource`, `matching` — what a store can do;
* `Store.perform` — the same as one step: an `Operation` gives an `Answer` and the next store;
* `Store.after` — the store that a run of operations leaves.
-/

namespace AccessRules

/-- The rules of a store at some moment. -/
structure Snapshot where
  rules : List Rule
  /-- Which store gave it. -/
  origin : Nat
  /-- How many snapshots that store made before. -/
  serial : Nat
  deriving Repr

/-- Are the two one and the same snapshot? The snapshots without rules are all the same. -/
def Snapshot.isSame (a b : Snapshot) : Bool :=
  (a.rules.isEmpty && b.rules.isEmpty) || (a.origin == b.origin && a.serial == b.serial)

/-- A store of rules. -/
structure Store where
  rules : List Rule
  /-- Which store it is. -/
  origin : Nat
  /-- How many snapshots were made. -/
  made : Nat
  /-- The snapshot made last, unless a rule was added since. -/
  cached : Option Snapshot
  deriving Repr

namespace Store

/-- Make every input a rule; the first that is none ends it. -/
def rulesOf : List RuleInput → Except Failure (List Rule)
  | [] => .ok []
  | input :: rest => do
      let rule ← input.toRule
      return rule :: (← rulesOf rest)

/-- A new store. -/
def ofInputs (origin : Nat) (inputs : List RuleInput) : Except Failure Store := do
  return ⟨← rulesOf inputs, origin, 0, none⟩

/-- Add a rule. A store is left as it is by an input that is no rule. -/
def add (store : Store) (input : RuleInput) : Except Failure (Rule × Store) := do
  let rule ← input.toRule
  return (rule, { store with rules := store.rules ++ [rule], cached := none })

/-- The snapshot of now. -/
def all (store : Store) : Snapshot × Store :=
  match store.cached with
  | some snapshot => (snapshot, store)
  | none =>
      let snapshot : Snapshot := ⟨store.rules, store.origin, store.made⟩
      (snapshot, { store with made := store.made + 1, cached := some snapshot })

/-- The rules that readers see. -/
def view (store : Store) : List Rule := store.all.1.rules

/-- The number of rules. -/
def size (store : Store) : Nat := store.rules.length

/-- The rules for a type of resource. -/
def forResource (store : Store) (type : Document) : List Rule :=
  store.view.filter fun rule => (Document.text rule.resource).equal type

/-- The rules for a type and an action, with their places in the store. -/
def matching (store : Store) (type action : Document) : List (Nat × Rule) :=
  (store.view.zipIdx.filter fun entry => entry.1.isFor type action).map fun entry =>
    (entry.2, entry.1)

/-- What is asked of a store. -/
inductive Operation where
  | add (input : RuleInput)
  | all
  | size
  /-- Go through the rules. -/
  | iterate
  | forResource (type : Document)
  | matching (type action : Document)
  deriving Repr

/-- What a store answers. -/
inductive Answer where
  | added (rule : Rule)
  /-- The input is no rule. -/
  | refused (failure : Failure)
  | snapshot (snapshot : Snapshot)
  | size (size : Nat)
  | rules (rules : List Rule)
  | places (entries : List (Nat × Rule))
  deriving Repr

/-- Perform an operation. All that read the rules read them off the snapshot of now, and so leave
it behind; the size alone is read without one. -/
def perform (store : Store) : Operation → Answer × Store
  | .add input => match store.add input with
    | .ok (rule, store) => (.added rule, store)
    | .error failure => (.refused failure, store)
  | .all => (.snapshot store.all.1, store.all.2)
  | .size => (.size store.size, store)
  | .iterate => (.rules store.view, store.all.2)
  | .forResource type => (.rules (store.forResource type), store.all.2)
  | .matching type action => (.places (store.matching type action), store.all.2)

/-- The store after some operations. -/
def after (store : Store) (operations : List Operation) : Store :=
  operations.foldl (fun store operation => (store.perform operation).2) store

end Store

end AccessRules
