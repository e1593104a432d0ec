import AccessRules.Document.Basic
import AccessRules.Text.Digit

/-!
# What surrounds an event

Events are joined with the trace that they belong to, with the request and the subject that are
being served, and with the service that logs them. Each of these is a step that adds members to an
event.

* `addTrace` — the identifiers of the current span, unless it is not recording or they are zero;
* `addCorrelation` — the request, in place of the event's own, and the subject, unless the event
  has one;
* `addService` — the part of the logger's name in front of the first dot.
-/

namespace AccessRules.Log

open AccessRules.Text

/-- The current span of a trace. -/
structure Span where
  traceId : Nat
  spanId : Nat
  recording : Bool
  deriving DecidableEq, Repr

/-- The text of the trace's identifier: at least thirty-two digits. None when the span does not
record or the identifier is zero. -/
def Span.traceText? (span : Span) : Option String :=
  if span.recording && span.traceId != 0 then some (paddedHex 32 span.traceId) else none

/-- The text of the span's identifier: at least sixteen digits. -/
def Span.spanText? (span : Span) : Option String :=
  if span.recording && span.spanId != 0 then some (paddedHex 16 span.spanId) else none

/-- Set a member when there is a value for it. -/
def setText (name : String) (value : Option String) (event : Members) : Members :=
  match value with
  | some text => event.set name (.text text)
  | none => event

/-- Add the identifiers of the current span. -/
def addTrace (span : Option Span) (event : Members) : Members :=
  setText "span_id" (span.bind Span.spanText?)
    (setText "trace_id" (span.bind Span.traceText?) event)

/-- The request and the subject that are being served; nothing while there is none. -/
structure Correlation where
  request : Document
  subject : Document
  deriving Repr

/-- Nothing is being served. -/
def Correlation.clear : Correlation := ⟨.null, .null⟩

/-- Serve a request of the given identifier, or of a fresh one when none is given. -/
def Correlation.setRequest (correlation : Correlation) (fresh : String)
    (given : Document) : Correlation :=
  match given with
  | .null => { correlation with request := .text fresh }
  | given => { correlation with request := given }

/-- Serve a subject. An identifier that counts as false leaves the subject as it was. -/
def Correlation.setSubject (correlation : Correlation) (given : Document) : Correlation :=
  if given.isTrue then { correlation with subject := given } else correlation

/-- Add the request and the subject that are being served. -/
def addCorrelation (correlation : Correlation) (event : Members) : Members :=
  let event :=
    if correlation.request.isTrue then event.set "request_id" correlation.request else event
  if correlation.subject.isTrue && !event.has "subject_id" then
    event.set "subject_id" correlation.subject
  else event

/-- The service that a logger's name begins with; none when the name has no dot. -/
def serviceOf (logger : String) : Option String :=
  let name := logger.toList
  if name.contains '.' then some (String.ofList (name.takeWhile (· != '.'))) else none

/-- Does a document hold a dot as an item or a key? -/
def holdsDot (items : List Document) : Bool := items.any fun item => item.text? == some "."

/-- Add the service of the event's logger. -/
def addService (event : Members) : Except Fault Members :=
  match (event.get? "logger").getD (.text "") with
  | .text logger | .guarded logger => .ok (setText "service" (serviceOf logger) event)
  | .array items => if holdsDot items then .error .unknownName else .ok event
  | .object members => if holdsDot (Members.keys members) then .error .unknownName else .ok event
  | _ => .error .wrongKind

/-- Add the time, in seconds. -/
def addTime (seconds : Float) (event : Members) : Members := event.set "timestamp" (.float seconds)

end AccessRules.Log
