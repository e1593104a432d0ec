import AccessRules.Fault
import AccessRules.Text.LetterCase

/-!
# Log levels

Events have a level, and the log has the least level that it writes. Levels are named without
regard to case.
-/

namespace AccessRules.Log

/-- A level of events. -/
inductive Level where
  /-- Below every event. -/
  | notset
  | debug
  | info
  | warning
  | error
  | critical
  deriving DecidableEq, Repr, Inhabited

/-- How high a level is. -/
def Level.rank : Level → Nat
  | .notset => 0
  | .debug => 10
  | .info => 20
  | .warning => 30
  | .error => 40
  | .critical => 50

/-- The word for a level in events. -/
def Level.word : Level → String
  | .notset => "notset"
  | .debug => "debug"
  | .info => "info"
  | .warning => "warning"
  | .error => "error"
  | .critical => "critical"

/-- The levels by their upper-case names. -/
def levelNames : List (String × Level) :=
  [("NOTSET", .notset), ("DEBUG", .debug), ("INFO", .info), ("WARNING", .warning),
   ("WARN", .warning), ("ERROR", .error), ("CRITICAL", .critical), ("FATAL", .critical)]

/-- The default template of lines, a name that is known and names no level. -/
def lineTemplate : String := "%(levelname)s:%(name)s:%(message)s"

/-- The level of a name. Two names are known and name something else. -/
def Level.ofName (name : String) : Except Fault Level :=
  let upper := String.ofList (Text.upper name.toList)
  match levelNames.lookup upper with
  | some level => .ok level
  | none =>
      if upper == "BASIC_FORMAT" then .error (.wrongValue (.unknownLevel lineTemplate))
      else if upper == "_STYLES" then .error .wrongKind
      else .error .unknownName

/-- The level of the events that a method of this name writes. -/
def Level.ofMethod? (method : String) : Option Level :=
  ([("debug", .debug), ("info", .info), ("warning", .warning), ("warn", .warning),
    ("error", .error), ("exception", .error), ("critical", .critical), ("fatal", .critical)] :
      List (String × Level)).lookup method

end AccessRules.Log
