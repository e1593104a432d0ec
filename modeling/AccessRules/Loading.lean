import AccessRules.Payload
import AccessRules.Engine

/-!
# Loading rules

A resolver is built from what a loader delivers. A load that fails is told and counted as a
failure, and the failure is passed on as it is; a load that succeeds is told and counted with the
number of its rules.

A loader has to be waited for: it is an `Awaitable`, which may change what it draws on.
`createFromSource` and `createFromFetcher` wait and then load what came; `loadFromSource` and
`loadFromFetch` are what they do once they have waited.
-/

namespace AccessRules

/-- What a fetch came to: a payload, or the failure that the source raised. -/
abbrev Fetched := Except Failure Payload

/-- The rules that a fetch brought. -/
def Fetched.rules (fetched : Fetched) : Except Failure (List Rule) := do (← fetched).rules

/-- Something to wait for: it comes to a result or raises a failure, and leaves what it draws on in
another state. -/
abbrev Awaitable (σ α : Type) := σ → Except Failure α × σ

/-- The loader that waits for a fetch and takes the rules out of its payload. -/
def Awaitable.unwrapping {σ : Type} (fetch : Awaitable σ Payload) :
    Awaitable σ (List RuleInput) := fun drawn =>
  let (fetched, drawn) := fetch drawn
  ((Fetched.rules fetched).map (·.map .rule), drawn)

namespace Engine

/-- Build a resolver from the rules that a loader delivered, or tell that it failed. -/
def finishLoad (engine : Engine) (evaluator : Evaluator) (collector : Option String)
    (loaded : Except Failure (List Rule)) : Except Failure Nat × Engine :=
  match loaded with
  | .error failure => (.error failure, engine.tell collector (.loadFailed failure))
  | .ok rules =>
      let engine := engine.tell collector (.rulesLoaded rules.length)
      match engine.newResolver evaluator collector (rules.map .rule) with
      | .ok (number, engine) => (.ok number, engine)
      | .error failure => (.error failure, engine)

/-- Build a resolver from what a loader delivered: inputs of rules, or its failure. -/
def loadFromSource (engine : Engine) (evaluator : Evaluator) (collector : Option String)
    (delivered : Except Failure (List RuleInput)) : Except Failure Nat × Engine :=
  engine.finishLoad evaluator collector (do parseRules (← delivered))

/-- Build a resolver from a fetched payload. -/
def loadFromFetch (engine : Engine) (evaluator : Evaluator) (collector : Option String)
    (fetched : Fetched) : Except Failure Nat × Engine :=
  engine.finishLoad evaluator collector fetched.rules

/-- Wait for a loader and build a resolver from what it delivers. -/
def createFromSource {σ : Type} (engine : Engine) (evaluator : Evaluator)
    (collector : Option String) (loader : Awaitable σ (List RuleInput)) (drawn : σ) :
    Except Failure Nat × Engine × σ :=
  let (delivered, drawn) := loader drawn
  let (result, engine) := engine.loadFromSource evaluator collector delivered
  (result, engine, drawn)

/-- Wait for a fetch and build a resolver from its payload: the rules in it are loaded like those of
any other loader. -/
def createFromFetcher {σ : Type} (engine : Engine) (evaluator : Evaluator)
    (collector : Option String) (fetch : Awaitable σ Payload) (drawn : σ) :
    Except Failure Nat × Engine × σ :=
  engine.createFromSource evaluator collector fetch.unwrapping drawn

end Engine

end AccessRules
