import AccessRules.Log.Line
import AccessRules.Engine

/-!
# Setting up the log

Setting up the log installs its lines and sets their threshold. The threshold that is set first
stays, whatever later calls ask for.
-/

namespace AccessRules

/-- The threshold of a log whose first setting failed. -/
def defaultThreshold : Log.Level := .warning

/-- The log after a call that asks for a level, and the fault of the call. A level that is not a
text, or a name that means nothing, changes no threshold. -/
def Logging.configure (logging : Logging) (level : Document) : Except Fault Unit × Logging :=
  let logging := { logging with installed := true }
  match level.text? with
  | none => (.error .unknownName, logging)
  | some name => match Log.Level.ofName name, logging.threshold with
    | .error .unknownName, _ => (.error .unknownName, logging)
    | _, some _ => (.ok (), logging)
    | .ok level, none => (.ok (), { logging with threshold := some level })
    | .error fault, none => (.error fault, { logging with threshold := some defaultThreshold })

/-- Set up the log of an engine for a service. -/
def Engine.configureLogging (engine : Engine) (service : String) (level : Document) :
    Except Failure Unit × Engine :=
  match engine.logging.configure level with
  | (.ok _, logging) =>
      (.ok (), { engine with logging := logging }.tell none (.loggingConfigured service level))
  | (.error fault, logging) => (.error (.fault fault), { engine with logging := logging })

/-- An event as a call of its logger. -/
def LogEvent.call (event : LogEvent) : Log.Call :=
  { logger := .text event.logger
    level := event.level
    isException := false
    event := .text event.text
    arguments := []
    fields := event.fields.map fun field => (.text field.1, field.2) }

/-- An event as whoever listens to the log sees it: without the name of its logger. -/
def LogEvent.heard (event : LogEvent) : Document :=
  .record (event.fields ++ [("event", .text event.text), ("log_level", .text event.level.word)])

/-- What listeners heard before the log was set up to write lines. -/
def Engine.heard (engine : Engine) : List Document :=
  engine.journal.filterMap fun entry =>
    if entry.logging.installed then none else entry.notice.event?.map LogEvent.heard

/-- The line that an entry of the journal was written as, at some moment. -/
def JournalEntry.line? (moment : Log.Moment) (entry : JournalEntry) : Option Members :=
  match entry.logging.installed, entry.logging.threshold, entry.notice.event? with
  | true, some threshold, some event =>
      match Log.line? ⟨threshold, none, .clear, .calm "", moment⟩ event.call with
      | .ok line => line
      | .error _ => none
  | _, _, _ => none

/-- The lines that the journal was written as, all at one moment. -/
def Engine.lines (engine : Engine) (moment : Log.Moment) : List Members :=
  engine.journal.filterMap (JournalEntry.line? moment)

end AccessRules
