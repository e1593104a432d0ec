import AccessRules.Document.Written

/-!
# Failures

An operation fails in one of three ways. A `Report` carries a code, a message and details; a
validation failure lists every `Issue` of a document that should have described a model; and any
other `Fault` passes through as it is.
-/

namespace AccessRules

/-- A step on the way from a document to the part that an issue is about. -/
inductive Place where
  | name (name : String)
  | index (index : Nat)
  /-- A member by its key, which may be no text. -/
  | key (key : Key)
  deriving DecidableEq, Repr

/-- The integers of a machine word are below this bound, and not below its negation. -/
def wordBound : Int := 9223372036854775808

/-- A key as it is shown in a place: texts as they are, truth values and integers of a machine word
as integers, and any other key in its written form. -/
def Key.shown : Key → Document
  | .text value => .text value
  | .bool value => .int (if value then 1 else 0)
  | .int value =>
      if -wordBound ≤ value && value < wordBound then .int value
      else .text ((Key.int value).display.toOption.getD "<unprintable int object>")
  | key => .text (key.display.toOption.getD "")

/-- A place as a document. -/
def Place.toDocument : Place → Document
  | .name text => .text text
  | .index position => .int position
  | .key other => other.shown

/-- What is wrong with a part of a document. -/
inductive Complaint where
  /-- A required member is not there. -/
  | missing
  | notText
  /-- A text where the names of roles should be listed. -/
  | textForRoles
  /-- No object where the members of a model should be. -/
  | notModel (model : String)
  | notList
  | notObject
  | notNumber
  | unreadableNumber
  | notPositive
  | notBool
  | unreadableBool
  deriving DecidableEq, Repr

/-- The word for the type of a complaint. -/
def Complaint.type : Complaint → String
  | .missing => "missing"
  | .notText => "string_type"
  | .textForRoles => "value_error"
  | .notModel _ => "model_type"
  | .notList => "list_type"
  | .notObject => "dict_type"
  | .notNumber => "float_type"
  | .unreadableNumber => "float_parsing"
  | .notPositive => "greater_than"
  | .notBool => "bool_type"
  | .unreadableBool => "bool_parsing"

/-- The words for roles that are a text, which is raised as an error of its own. -/
def Complaint.textForRolesWords : String :=
  "allowedRoles must be a list of role names, not a string"

/-- The words for a complaint. -/
def Complaint.message : Complaint → String
  | .missing => "Field required"
  | .notText => "Input should be a valid string"
  | .textForRoles => "Value error, " ++ textForRolesWords
  | .notModel model => "Input should be a valid dictionary or instance of " ++ model
  | .notList => "Input should be a valid list"
  | .notObject => "Input should be a valid dictionary"
  | .notNumber => "Input should be a valid number"
  | .unreadableNumber => "Input should be a valid number, unable to parse string as a number"
  | .notPositive => "Input should be greater than 0"
  | .notBool => "Input should be a valid boolean"
  | .unreadableBool => "Input should be a valid boolean, unable to interpret input"

/-- What a complaint was made against: the error that was raised, the model or the bound. -/
def Complaint.context? : Complaint → Option Document
  | .textForRoles =>
      some (.record [("error", .leaf ⟨"ValueError", textForRolesWords,
        "ValueError(" ++ Text.quoted textForRolesWords ++ ")"⟩)])
  | .notModel model => some (.record [("class_name", .text model)])
  | .notPositive => some (.record [("gt", .float 0)])
  | _ => none

/-- Something wrong with a part of a document: what, where, and the part itself. -/
structure Issue where
  complaint : Complaint
  place : List Place
  input : Document
  deriving Repr

/-- An issue as a document. -/
def Issue.toDocument (issue : Issue) : Document :=
  .record
    ([("type", .text issue.complaint.type),
      ("loc", .array (issue.place.map Place.toDocument)),
      ("msg", .text issue.complaint.message),
      ("input", issue.input)] ++
      (issue.complaint.context?.map fun context => ("ctx", context)).toList)

/-- The issue of a part, seen from the whole that holds the part at `outer`. -/
def Issue.within (outer : List Place) (issue : Issue) : Issue :=
  { issue with place := outer ++ issue.place }

/-- A part of a model that a document describes, or what is wrong with it. -/
abbrev Checked (α : Type) := Except (List Issue) α

/-- The issues with a part. -/
def Checked.issues {α : Type} : Checked α → List Issue
  | .ok _ => []
  | .error issues => issues

/-- The kinds of reports. -/
inductive ReportKind where
  | general
  | validation
  | conditionEvaluation
  | ruleLoad
  | notInitialized
  | alreadyInitialized
  deriving DecidableEq, Repr

/-- The name of a kind of report. -/
def ReportKind.name : ReportKind → String
  | .general => "PermissionsException"
  | .validation => "ValidationError"
  | .conditionEvaluation => "ConditionEvaluationError"
  | .ruleLoad => "RuleLoadError"
  | .notInitialized => "ResolverNotInitializedError"
  | .alreadyInitialized => "ResolverAlreadyInitializedError"

/-- The kinds of reports. -/
def reportKinds : List ReportKind :=
  [.general, .validation, .conditionEvaluation, .ruleLoad, .notInitialized, .alreadyInitialized]

/-- The kind of report of a name. -/
def ReportKind.ofName? (name : String) : Option ReportKind :=
  reportKinds.find? fun kind => kind.name == name

/-- The code and the default message of a kind; a general report is given both. -/
def ReportKind.defaults? : ReportKind → Option (String × String)
  | .general => none
  | .validation => some ("VALIDATION_ERROR", "Validation failed")
  | .conditionEvaluation => some ("CONDITION_EVALUATION_ERROR", "Condition evaluation failed")
  | .ruleLoad => some ("RULE_LOAD_ERROR", "Rule load failed")
  | .notInitialized => some ("RESOLVER_NOT_INITIALIZED", "PermissionResolver not initialized")
  | .alreadyInitialized =>
      some ("RESOLVER_ALREADY_INITIALIZED", "PermissionResolver already initialized")

/-- A failure with a code, a message and details. They are texts and an object as far as this
library raises them; whoever raises a report of their own may give any documents. -/
structure Report where
  kind : ReportKind
  code : Document
  message : Document
  details : Document
  deriving Repr

/-- A report of a kind with the code of that kind. -/
def Report.of (kind : ReportKind) (message : String) (details : List (String × Document)) :
    Report :=
  ⟨kind, .text ((kind.defaults?.map Prod.fst).getD ""), .text message, .record details⟩

/-- A report from the parts that its raiser gave. Details that count as false are no details. -/
def Report.ofParts (kind : ReportKind) (code message details : Option Document) :
    Except Fault Report :=
  let details := (details.getD .null).orElse .empty
  match kind.defaults?, code, message with
  | some (code, words), none, message => .ok ⟨kind, .text code, message.getD (.text words), details⟩
  | none, some code, some message => .ok ⟨kind, code, message, details⟩
  | _, _, _ => .error .wrongKind

/-- The resolver is asked for before it is there. -/
def Report.notInitialized : Report :=
  .of .notInitialized "PermissionResolver not initialized" []

/-- The resolver is there already. -/
def Report.alreadyInitialized : Report :=
  .of .alreadyInitialized "PermissionResolver already initialized" []

/-- How an operation fails. -/
inductive Failure where
  | report (report : Report)
  /-- A document does not describe the model. -/
  | invalid (model : String) (issues : List Issue)
  | fault (fault : Fault)
  deriving Repr

/-- The word for the kind of a failure. -/
def Failure.kind : Failure → String
  | .report details => details.kind.name
  | .invalid _ _ => "ValidationError"
  | .fault cause => cause.kind

/-- The words for a failure. -/
def Failure.message : Failure → String
  | .report details => details.message.text?.getD ""
  | .invalid model issues =>
      Number.writtenInt issues.length ++ " validation errors for " ++ model
  | .fault cause => cause.message

/-- A fault passes through as a failure. -/
def Failure.lift {α : Type} : Except Fault α → Except Failure α
  | .ok value => .ok value
  | .error cause => .error (.fault cause)

end AccessRules
