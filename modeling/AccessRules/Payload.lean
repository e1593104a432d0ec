import AccessRules.Rule

/-!
# Rule payloads

What a source of rules delivers: an envelope, which is an object whose member `data` lists the
rules; or the bare list. The envelope may have been checked as a whole before, in which case the
issues with all its rules are reported together; otherwise the first rule that is not right ends
the reading.
-/

namespace AccessRules

/-- Read rules one after another, numbered from `index` on. A rule that is not right is reported
with its index. -/
def parseRulesFrom (index : Nat) : List RuleInput → Except Failure (List Rule)
  | [] => .ok []
  | input :: rest => match input.toRule with
    | .ok rule => do return rule :: (← parseRulesFrom (index + 1) rest)
    | .error (.invalid _ issues) =>
        .error (.report (.of .ruleLoad ("Invalid rule at index " ++ Number.writtenInt index)
          [("index", .int index), ("errors", .array (issues.map Issue.toDocument))]))
    | .error failure => .error failure

/-- Read the rules that were loaded. -/
def parseRules (inputs : List RuleInput) : Except Failure (List Rule) := parseRulesFrom 0 inputs

/-- The inputs that a document yields when it is gone through. -/
def inputsOf (document : Document) : Except Failure (List RuleInput) := do
  return (← Failure.lift document.elements).map .document

/-- Read the rules that a document yields when it is gone through. -/
def parseRulesOf (document : Document) : Except Failure (List Rule) := do
  parseRules (← inputsOf document)

/-- An envelope in memory: the list of its member `data`, which may hold rules that are made
already, and whatever else stands in it. -/
structure Envelope where
  data : List RuleInput
  others : Members
  deriving Repr

namespace Envelope

/-- The name of the model in issues. -/
def modelName : String := "RuleSourcePayload"

/-- Read every rule of a list, numbered from `index` on, and collect the issues with all of them.
A failure of another kind ends the reading. -/
def readRules (index : Nat) : List RuleInput → Except Failure (Checked (List Rule))
  | [] => .ok (.ok [])
  | input :: rest => do
      let first : Checked Rule ← match input.toRule with
        | .ok rule => pure (.ok rule)
        | .error (.invalid _ issues) =>
            pure (.error (issues.map (Issue.within [.name "data", .index index])))
        | .error failure => .error failure
      match first, ← readRules (index + 1) rest with
      | .ok rule, .ok rules => return .ok (rule :: rules)
      | first, others => return .error (first.issues ++ others.issues)

/-- The rules of a checked envelope whose list is in memory, and may hold rules that are made
already. -/
def ofInputs (inputs : List RuleInput) : Except Failure (List Rule) := do
  match ← readRules 0 inputs with
  | .ok rules => return rules
  | .error issues => .error (.invalid modelName issues)

/-- The rules of a checked envelope. Without a member `data` there are none. -/
def ofDocument : Document → Except Failure (List Rule)
  | .object members => match Members.get? members "data" with
    | none => .ok []
    | some (.array items) => ofInputs (items.map .document)
    | some data => .error (.invalid modelName [⟨.notList, [.name "data"], data⟩])
  | document => .error (.invalid modelName [⟨.notModel modelName, [], document⟩])

end Envelope

/-- What a source delivers. -/
inductive Payload where
  /-- The rules of a checked envelope. -/
  | checked (rules : List Rule)
  | document (document : Document)
  /-- A list of rules and of documents that describe rules. -/
  | inputs (inputs : List RuleInput)
  deriving Repr

/-- What an envelope in memory delivers: its list, and nothing else of it. -/
def Envelope.payload (envelope : Envelope) : Payload := .inputs envelope.data

/-- The report on a payload without a list of rules. -/
def Payload.refused (message : String) (document : Document) : Failure :=
  .report (.of .ruleLoad message [("type", .text document.kind)])

/-- The rules of a payload. -/
def Payload.rules : Payload → Except Failure (List Rule)
  | .checked made => .ok made
  | .inputs given => parseRules given
  | .document (.array items) => parseRules (items.map .document)
  | .document (.object members) => match Members.get? members "data" with
    | some (.array items) => parseRules (items.map .document)
    | some data => .error (refused "Rule payload 'data' must be a list" data)
    | none => .error (refused "Rule payload must contain a 'data' list" (.object members))
  | .document other => .error (refused "Rule payload must contain a 'data' list" other)

end AccessRules
