import AccessRules.Condition.Outcome
import AccessRules.Store

/-!
# Decisions

A request is granted when some rule for its type and action passes: its roles admit the subject,
and its condition holds. Rules are tried in the order of the store, up to the first that passes. A
condition that fails to evaluate does not hold.

* `Resolver.examine` — the decision on a request, and the reports of failed conditions;
* `Resolver.allowedActions` — every action that a subject is granted on a resource.
-/

namespace AccessRules

/-- What was decided on a request, and why. -/
structure Decision where
  allowed : Bool
  reason : String
  /-- The place of the rule that granted the request. -/
  matchedRule : Option Nat
  /-- How many rules for the type and the action were tried. -/
  evaluatedRules : Nat
  /-- How many of them have a condition that failed to evaluate. -/
  conditionErrors : Nat
  deriving DecidableEq, Repr

/-- A decision with the reports of the conditions that failed on the way, in order. -/
structure Verdict where
  decision : Decision
  reports : List Report
  deriving Repr

/-- The label of an action on a type of resource. -/
def permissionLabel (type action : String) : String := type ++ ":" ++ action

/-- What came of trying a rule. -/
inductive Trial where
  | passed
  | failed
  | broke (report : Report)
  deriving Repr

/-- Try a rule on a request. -/
def Rule.attempt (rule : Rule) (evaluator : Evaluator) (subject : Subject) (resource : Resource) :
    Trial :=
  if rule.admits subject then
    match rule.condition with
    | none => .passed
    | some condition => match evaluator.outcome condition subject resource with
      | ⟨_, some report⟩ => .broke report
      | ⟨true, none⟩ => .passed
      | ⟨false, none⟩ => .failed
  else .failed

/-- The decision that grants a request by the rule at `index`. -/
def Decision.grant (index : Nat) (rule : Rule) (evaluated errors : Nat) : Decision :=
  { allowed := true
    reason := "Rule " ++ Number.writtenInt index ++ " granted " ++
      permissionLabel rule.resource rule.action
    matchedRule := some index
    evaluatedRules := evaluated
    conditionErrors := errors }

/-- The decision that denies a request. -/
def Decision.deny (evaluated errors : Nat) : Decision :=
  { allowed := false
    reason :=
      if evaluated = 0 then "No rule matched resource and action"
      else "No matching rule granted access"
    matchedRule := none
    evaluatedRules := evaluated
    conditionErrors := errors }

/-- Try the candidates one after another; `evaluated` of them were tried before, with the
`reports` given, the latest first. -/
def scan (evaluator : Evaluator) (subject : Subject) (resource : Resource) (evaluated : Nat)
    (reports : List Report) : List (Nat × Rule) → Verdict
  | [] => ⟨.deny evaluated reports.length, reports.reverse⟩
  | (index, rule) :: rest => match rule.attempt evaluator subject resource with
    | .passed => ⟨.grant index rule (evaluated + 1) reports.length, reports.reverse⟩
    | .failed => scan evaluator subject resource (evaluated + 1) reports rest
    | .broke report => scan evaluator subject resource (evaluated + 1) (report :: reports) rest

/-- A store of rules and the evaluator of their conditions. -/
structure Resolver where
  store : Store
  evaluator : Evaluator

namespace Resolver

/-- The decision on a request, with the reports of failed conditions. -/
def examine (resolver : Resolver) (subject : Subject) (resource : Resource) (action : Document) :
    Verdict :=
  scan resolver.evaluator subject resource 0 [] (resolver.store.matching resource.type action)

/-- The decision on a request. -/
def decide (resolver : Resolver) (subject : Subject) (resource : Resource) (action : Document) :
    Decision :=
  (resolver.examine subject resource action).decision

/-- May the subject perform the action on the resource? -/
def can (resolver : Resolver) (subject : Subject) (resource : Resource) (action : Document) :
    Bool :=
  (resolver.decide subject resource action).allowed

/-- The distinct items of a list, in the order of their first appearance. -/
def distinct : List String → List String
  | [] => []
  | item :: rest => item :: (distinct rest).filter (· != item)

/-- The distinct actions that the rules for a type mention. -/
def actionsFor (resolver : Resolver) (type : Document) : List String :=
  distinct ((resolver.store.forResource type).map (·.action))

/-- The labels of the actions that the subject is granted on the resource. -/
def allowedActions (resolver : Resolver) (subject : Subject) (resource : Resource) :
    List String :=
  ((resolver.actionsFor resource.type).filter fun action =>
    resolver.can subject resource (.text action)).map
      (permissionLabel ((resource.type.text?).getD ""))

end Resolver

end AccessRules
