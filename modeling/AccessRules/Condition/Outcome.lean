import AccessRules.Condition.Evaluate
import AccessRules.Failure
import AccessRules.Request

/-!
# Outcomes of conditions

A condition of a rule either is a truth value or consists of a single operator. It is evaluated
over the guarded context of a request. Whatever goes wrong is reported in the outcome, which is
then not satisfied; nothing escapes.
-/

namespace AccessRules

/-- What evaluating a condition came to. -/
structure Outcome where
  satisfied : Bool
  error : Option Report
  deriving Repr

/-- Did the evaluation come to an end? -/
def Outcome.isOk (outcome : Outcome) : Bool := outcome.error.isNone

namespace Condition

/-- Is the document a single operator with its operands? -/
def isOperation : Document → Bool
  | .object [(.text _, _)] => true
  | _ => false

/-- The report on a document that is no condition. -/
def malformed (condition : Document) : Report :=
  .of .conditionEvaluation "Malformed condition: expected a single-operator mapping"
    [("type", .text condition.kind)]

/-- The report on a fault in an evaluation. -/
def failed (fault : Fault) : Report :=
  .of .conditionEvaluation ("Condition evaluation failed: " ++ fault.message)
    [("error_type", .text fault.kind)]

/-- The outcome of a condition for a request. -/
def outcome (condition : Document) (subject : Subject) (resource : Resource) : Outcome :=
  match condition with
  | .bool value => ⟨value, none⟩
  | condition =>
      if isOperation condition then
        match meaning condition (context subject resource).guarding with
        | .ok value => ⟨value.isTrue, none⟩
        | .error fault => ⟨false, some (failed fault)⟩
      else ⟨false, some (malformed condition)⟩

end Condition

/-- A way of evaluating conditions for requests. -/
structure Evaluator where
  outcome : Document → Subject → Resource → Outcome
  /-- Does the evaluator announce the reports of its outcomes? -/
  announces : Bool

/-- The evaluator of this library's conditions. -/
def Evaluator.standard : Evaluator := ⟨Condition.outcome, true⟩

end AccessRules
