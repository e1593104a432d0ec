import AccessRules.Log.Context
import AccessRules.Log.Level
import AccessRules.Log.Template

/-!
# Lines of the log

A call of a logger becomes a line of the log in steps: events below the threshold are dropped; the
name of the logger and the level are added; positional arguments are filled into the text; the date
is added; marks are replaced by the stack and the exception that they ask for; and the service, the
trace, the correlation and the time are added. A line is an object.
-/

namespace AccessRules.Log

/-- A call of a logger. -/
structure Call where
  logger : Document
  level : Level
  /-- The call reports an exception. -/
  isException : Bool
  event : Document
  arguments : List Document
  fields : Members
  deriving Repr

/-- When a line is written. -/
structure Moment where
  /-- The moment as an ISO 8601 text. -/
  date : String
  /-- The same moment in seconds. -/
  seconds : Float
  deriving Repr

/-- From where a line is written. -/
structure Origin where
  /-- The calls that led there. -/
  stack : String
  /-- The exception that is being handled there. -/
  exception : String
  deriving Repr

/-- A place where no exception is being handled, whatever the calls that led there. -/
def Origin.calm (stack : String) : Origin := ⟨stack, "MISSING"⟩

/-- What a line is written with. -/
structure Setting where
  threshold : Level
  span : Option Span
  correlation : Correlation
  origin : Origin
  moment : Moment

/-- The name of the root logger. -/
def rootName : String := "root"

/-- The name of a logger: the root has none. -/
def loggerName : Document → Except Fault String
  | .null => .ok rootName
  | .text name | .guarded name => .ok (if name.isEmpty then rootName else name)
  | _ => .error .wrongKind

/-- The members of an event as the caller gave them. Some names are not the caller's to give. -/
def Call.members (call : Call) : Except Fault Members :=
  if ["self", "event", "method_name"].any fun name => call.fields.has name then .error .wrongKind
  else
    let fields :=
      if call.isException && !call.fields.has "exc_info" then
        call.fields.set "exc_info" (.bool true)
      else call.fields
    .ok (match call.event with
      | .null => fields
      | event => fields.set "event" event)

/-- Fill arguments into the text of an event. -/
def fillText (arguments : Arguments) (event : Members) : Except Fault Members :=
  match event.get? "event" with
  | some (.text template) => do return event.set "event" (.text (← fill template arguments))
  | some _ => .error .wrongKind
  | none => .error .missingKey

/-- Add the name of the logger. An event that holds a record of another log is asked for the name
in it, which no document has. -/
def addLogger (name : String) (event : Members) : Except Fault Members :=
  match event.get? "_record" with
  | none | some .null => .ok (event.set "logger" (.text name))
  | some _ => .error .unknownName

/-- The arguments that a member stands for. It has to have items: a list of one object gives
arguments by name, and an object of one member is asked for its first item, which it has not. -/
def standIn : Document → Except Fault Arguments
  | .array [.object members] =>
      .ok (.single (if members.isEmpty then .array [.object members] else .object members))
  | .array items => .ok (.single (.array items))
  | .object [_] => .error .missingKey
  | .object members => .ok (.single (.object members))
  | .text value => .ok (.single (.text value))
  | .guarded value => .ok (.single (.guarded value))
  | _ => .error .wrongKind

/-- The arguments that are filled in, if any. A single object gives arguments by name. Without
arguments a member of their name may stand in for them. -/
def argumentsOf (arguments : List Document) (fields : Members) : Except Fault (Option Arguments) :=
  match arguments with
  | [] => match fields.get? "positional_args" with
    | some value => if value.isTrue then (standIn value).map some else .ok none
    | none => .ok none
  | [.object members] =>
      .ok (some (if members.isEmpty then .sequence arguments else .single (.object members)))
  | arguments => .ok (some (.sequence arguments))

/-- Drop the member that arguments travel in. Nothing in their place stays. -/
def dropArguments (arguments : List Document) (event : Members) : Members :=
  match arguments, event.get? "positional_args" with
  | [], some .null => event
  | _, _ => event.erase "positional_args"

/-- Fill the positional arguments of a call into the text of its event. -/
def fillArguments (arguments : List Document) (event : Members) : Except Fault Members := do
  match ← argumentsOf arguments event with
  | some filling => return dropArguments arguments (← fillText filling event)
  | none => return dropArguments arguments event

/-- Add the date. -/
def addDate (date : String) (event : Members) : Members := event.set "timestamp" (.text date)

/-- Replace a mark by the text that it asks for. -/
def render (mark name text : String) (event : Members) : Members :=
  let asked := (event.get? mark).any Document.isTrue
  let event := event.erase mark
  if asked then event.set name (.text text) else event

/-- The line that a call of a logger writes; none when its level is below the threshold. -/
def line? (setting : Setting) (call : Call) : Except Fault (Option Members) := do
  let event ← call.members
  let name ← loggerName call.logger
  if call.level.rank < setting.threshold.rank then return none
  else
    let event ← addLogger name event
    let event ← fillArguments call.arguments (event.set "level" (.text call.level.word))
    let event := addDate setting.moment.date event
    let event := render "stack_info" "stack" setting.origin.stack event
    let event ← addService (render "exc_info" "exception" setting.origin.exception event)
    return some (addTime setting.moment.seconds
      (addCorrelation setting.correlation (addTrace setting.span event)))

end AccessRules.Log
