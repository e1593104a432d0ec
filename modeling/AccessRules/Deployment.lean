import AccessRules.Startup

/-!
# Deployments

An engine in use: besides resolvers it has any number of clients, and both go by their numbers.
Whatever is asked of a deployment comes to an end before the next thing is asked.

* `Deployment.perform` — an operation gives an answer and the next state;
* `Deployment.after` — the state that a run of operations leaves;
* `Deployment.load` — a call that waits for what it loads, and `Deployment.loadAll` a run of these.
-/

namespace AccessRules

/-- A fetch: what it comes to, and what it tells on the way. -/
structure Fetch where
  outcome : Fetched
  told : List Notice

/-- Fetch for an engine. -/
def Fetch.run (fetch : Fetch) (engine : Engine) : Fetched × Engine :=
  (fetch.outcome, engine.tellAll none fetch.told)

/-- What going through given rules yields: inputs of rules, or the failure to go through them. -/
abbrev Given := Except Failure (List RuleInput)

/-- What is asked of a resolver that leaves it as it is. -/
inductive Question where
  /-- May the subject perform the action on the resource? -/
  | can (subject : Subject) (resource : Resource) (action : Document)
  /-- What is decided on the request, and why? -/
  | decide (subject : Subject) (resource : Resource) (action : Document)
  /-- What may the subject do with the resource? -/
  | list (subject : Subject) (resource : Resource)

namespace Client

/-- What is asked of a client. -/
inductive Operation where
  | initializeByFetch (fetch : Fetch)
  | initializeFromRules (given : Given)
  | isInitialized
  | getResolver
  | can (subject : Subject) (resource : Resource) (action : Document)
  | list (subject : Subject) (resource : Resource)

/-- How many fetches a step begins. -/
def Effect.fetchCount : Effect → Nat
  | .fetches _ => 1
  | _ => 0

end Client

/-- An engine and the clients that use it. -/
structure Deployment where
  engine : Engine
  clients : List Client
  /-- How many fetches were begun. -/
  fetches : Nat

namespace Deployment

/-- What is asked of a deployment. -/
inductive Operation where
  | newResolver (evaluator : Evaluator) (collector : Option String) (given : Given)
  | loadFromSource (evaluator : Evaluator) (collector : Option String) (delivered : Given)
  | loadFromFetch (evaluator : Evaluator) (collector : Option String) (fetched : Fetched)
  | newClient (evaluator : Evaluator) (collector : Option String)
  | start (registry : String) (attempt : Attempt)
  /-- Ask a client. -/
  | client (number : Nat) (use : Client.Operation)
  /-- Add a rule to a resolver. -/
  | addRule (number : Nat) (input : RuleInput)
  /-- List the rules of a resolver. -/
  | rules (number : Nat)
  /-- Ask a resolver. -/
  | ask (number : Nat) (question : Question)

/-- What a deployment answers. -/
inductive Answer where
  | truth (value : Bool)
  | decision (decision : Decision)
  | labels (labels : List String)
  | added (rule : Rule)
  | rules (rules : List Rule)
  /-- A resolver, by its number. -/
  | resolver (number : Nat)
  /-- A client, by its number. -/
  | client (number : Nat)
  | failed (failure : Failure)
  /-- Nothing has the number that was given. -/
  | unknown

/-- The answer with a resolver, or with the reason why there is none. -/
def Answer.ofBuilt : Except Failure Nat → Answer
  | .ok number => .resolver number
  | .error failure => .failed failure

/-- Ask a resolver. -/
def put (deployment : Deployment) (service : Service) : Question → Answer × Deployment
  | .can subject resource action =>
      let (decision, engine) := deployment.engine.decide service subject resource action
      (.truth decision.allowed, { deployment with engine := engine })
  | .decide subject resource action =>
      let (decision, engine) := deployment.engine.decide service subject resource action
      (.decision decision, { deployment with engine := engine })
  | .list subject resource =>
      let (labels, engine) := deployment.engine.allowedActions service subject resource
      (.labels labels, { deployment with engine := engine })

/-- Ask the resolver of a number. -/
def putTo (deployment : Deployment) (number : Nat) (question : Question) : Answer × Deployment :=
  match deployment.engine.services[number]? with
  | some service => deployment.put service question
  | none => (.unknown, deployment)

/-- Ask the resolver of a client. -/
def delegate (deployment : Deployment) (client : Client) (question : Question) :
    Answer × Deployment :=
  match client.getResolver with
  | .ok number => deployment.putTo number question
  | .error failure => (.failed failure, deployment)

/-- Initialize a client from given rules. A client with a resolver does not go through them. -/
def initializeFromGiven (deployment : Deployment) (client : Client) (given : Given) :
    Except Failure Nat × Client × Engine :=
  match given with
  | .ok inputs => client.initializeFromRules deployment.engine inputs
  | .error failure =>
      (.error (if client.isInitialized then .report .alreadyInitialized else failure), client,
        deployment.engine)

/-- Ask the client of a number. -/
def useClient (deployment : Deployment) (number : Nat) (client : Client) :
    Client.Operation → Answer × Deployment
  | .initializeByFetch fetch =>
      let begun := (client.start 0).1.fetchCount
      let (result, client, engine) := client.initializeByFetch deployment.engine fetch.run
      (.ofBuilt result,
        ⟨engine, deployment.clients.set number client, deployment.fetches + begun⟩)
  | .initializeFromRules given =>
      let (result, client, engine) := deployment.initializeFromGiven client given
      (.ofBuilt result, ⟨engine, deployment.clients.set number client, deployment.fetches⟩)
  | .isInitialized => (.truth client.isInitialized, deployment)
  | .getResolver => (.ofBuilt client.getResolver, deployment)
  | .can subject resource action => deployment.delegate client (.can subject resource action)
  | .list subject resource => deployment.delegate client (.list subject resource)

/-- Take in a new client; gives its number. -/
def addClient (deployment : Deployment) (client : Client) : Answer × Deployment :=
  (.client deployment.clients.length,
    { deployment with clients := deployment.clients ++ [client] })

/-- Perform an operation. -/
def perform (deployment : Deployment) : Operation → Answer × Deployment
  | .newResolver evaluator collector given =>
      match (do deployment.engine.newResolver evaluator collector (← given)) with
      | .ok (number, engine) => (.resolver number, { deployment with engine := engine })
      | .error failure => (.failed failure, deployment)
  | .loadFromSource evaluator collector delivered =>
      let (result, engine) := deployment.engine.loadFromSource evaluator collector delivered
      (.ofBuilt result, { deployment with engine := engine })
  | .loadFromFetch evaluator collector fetched =>
      let (result, engine) := deployment.engine.loadFromFetch evaluator collector fetched
      (.ofBuilt result, { deployment with engine := engine })
  | .newClient evaluator collector => deployment.addClient (.new evaluator collector)
  | .start registry attempt => match deployment.engine.attempt registry attempt with
    | (.ok client, engine) => { deployment with engine := engine }.addClient client
    | (.error failure, engine) => (.failed failure, { deployment with engine := engine })
  | .client number use => match deployment.clients[number]? with
    | some client => deployment.useClient number client use
    | none => (.unknown, deployment)
  | .addRule number input => match deployment.engine.services[number]? with
    | some service => match deployment.engine.addRule number service input with
      | .ok (rule, engine) => (.added rule, { deployment with engine := engine })
      | .error failure => (.failed failure, deployment)
    | none => (.unknown, deployment)
  | .rules number => match deployment.engine.services[number]? with
    | some service => (.rules service.resolver.store.view, deployment)
    | none => (.unknown, deployment)
  | .ask number question => deployment.putTo number question

/-- The state after some operations. -/
def after (deployment : Deployment) (operations : List Operation) : Deployment :=
  operations.foldl (fun deployment operation => (deployment.perform operation).2) deployment

/-- A call that waits for the rules it loads. -/
inductive LoadCall (σ : Type) where
  | source (evaluator : Evaluator) (collector : Option String)
      (loader : Awaitable σ (List RuleInput))
  | fetcher (evaluator : Evaluator) (collector : Option String) (fetch : Awaitable σ Payload)
  /-- Initialize the client of a number. -/
  | client (number : Nat) (fetch : Awaitable σ Payload)

/-- Make a call; gives the answer, the next state, and the state of what the calls draw on. -/
def load {σ : Type} (deployment : Deployment) (drawn : σ) :
    LoadCall σ → Answer × Deployment × σ
  | .source evaluator collector loader =>
      let (result, engine, drawn) :=
        deployment.engine.createFromSource evaluator collector loader drawn
      (.ofBuilt result, { deployment with engine := engine }, drawn)
  | .fetcher evaluator collector fetch =>
      let (result, engine, drawn) :=
        deployment.engine.createFromFetcher evaluator collector fetch drawn
      (.ofBuilt result, { deployment with engine := engine }, drawn)
  | .client number fetch => match deployment.clients[number]? with
    | some client =>
        let begun := (client.start 0).1.fetchCount
        let (result, client, engine, drawn) := client.initializeFrom deployment.engine fetch drawn
        (.ofBuilt result,
          ⟨engine, deployment.clients.set number client, deployment.fetches + begun⟩, drawn)
    | none => (.unknown, deployment, drawn)

/-- The state after some calls, and that of what they draw on. -/
def loadAll {σ : Type} (deployment : Deployment) (drawn : σ) :
    List (LoadCall σ) → Deployment × σ
  | [] => (deployment, drawn)
  | call :: rest =>
      let (_, deployment, drawn) := deployment.load drawn call
      deployment.loadAll drawn rest

end Deployment

end AccessRules
