import AccessRules.Failure
import AccessRules.Log.Context

/-!
# Responses to failures

A report is answered by a response that names the trace in which it arose. The parts of a report
may have been given as any documents; a response needs texts, and an object whose keys are texts.
-/

namespace AccessRules

/-- The answer to a report. -/
structure Response where
  traceId : Option String
  code : String
  message : String
  details : List (String × Document)
  deriving Repr

namespace Response

/-- The name of the model in issues. -/
def modelName : String := "ErrorResponse"

/-- The issue with a part that should be a text. -/
def textIssues (name : String) (document : Document) : List Issue :=
  if document.text?.isSome then [] else [⟨.notText, [.name name], document⟩]

/-- The fields of an object, all of whose keys have to be texts. -/
def readFields (name : String) : Members → Checked (List (String × Document))
  | [] => .ok []
  | (.text field, value) :: rest => (readFields name rest).map ((field, value) :: ·)
  | (key, _) :: rest =>
      .error (⟨.notText, [.name name, .key key, .name "[key]"], key.toDocument⟩ ::
        (readFields name rest).issues)

/-- A part that should be an object with texts as keys. -/
def readObject (name : String) : Document → Checked (List (String × Document))
  | .object members => readFields name members
  | document => .error [⟨.notObject, [.name name], document⟩]

/-- The response to a report that arose in a span. -/
def ofReport (span : Option Log.Span) (report : Report) : Except Failure Response :=
  match report.code.text?, report.message.text?, readObject "details" report.details with
  | some code, some message, .ok details =>
      .ok ⟨span.bind Log.Span.traceText?, code, message, details⟩
  | _, _, details =>
      .error (.invalid modelName
        (textIssues "code" report.code ++ textIssues "message" report.message ++ details.issues))

end Response

end AccessRules
