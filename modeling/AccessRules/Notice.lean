import AccessRules.Failure
import AccessRules.Log.Level
import AccessRules.Metrics
import AccessRules.Resolver

/-!
# Notices

Whatever happens while rules are loaded and requests are decided is told by notices. Both the log
and the metrics are read off them: `Notice.event?` is the event that a notice writes to the log,
and `Metrics.observe` what it adds to the counters.
-/

namespace AccessRules

/-- Something that happened. -/
inductive Notice where
  /-- The condition of a rule failed to evaluate. -/
  | conditionFailed (subject : Subject) (resource : Resource) (report : Report) (announced : Bool)
  /-- A request was decided. -/
  | decided (subject : Subject) (resource : Resource) (action : Document) (decision : Decision)
  | ruleAdded (rule : Rule)
  | loadFailed (failure : Failure)
  | rulesLoaded (count : Nat)
  /-- A client got its resolver. -/
  | clientReady (count : Nat)
  | fileUnreadable (path message : String)
  | fileMalformed (path message : String)
  | fetchFailed (url : Document) (message : String)
  | fetchRefused (url : Document) (status : Int)
  | fetched (url : Document)
  | loggingConfigured (service : String) (level : Document)
  deriving Repr

/-- An event of the log. -/
structure LogEvent where
  logger : String
  level : Log.Level
  text : String
  fields : List (String × Document)
  deriving Repr

/-- The place of the rule that granted a request, as a document. -/
def matchedDocument : Option Nat → Document
  | some index => .int index
  | none => .null

/-- The event that a notice writes to the log. -/
def Notice.event? : Notice → Option LogEvent
  | .conditionFailed subject resource report announced =>
      if announced then
        some ⟨"permissions.condition_evaluator", .warning, "Condition evaluation failed",
          [("subject_id", subject.id), ("resource_type", resource.type),
           ("error", report.message), ("details", report.details)]⟩
      else none
  | .decided subject resource action decision =>
      some ⟨"permissions.resolver", .debug, "Permission decision",
        [("subject_id", subject.id), ("resource_type", resource.type),
         ("resource_id", resource.id), ("action", action), ("allowed", .bool decision.allowed),
         ("matched_rule", matchedDocument decision.matchedRule),
         ("reason", .text decision.reason)]⟩
  | .ruleAdded rule =>
      some ⟨"permissions.resolver", .debug, "Rule added",
        [("resource", .text rule.resource), ("action", .text rule.action)]⟩
  | .loadFailed failure =>
      some ⟨"permissions.loader", .error, "Rule load failed",
        [("error", .text failure.message), ("error_type", .text failure.kind)]⟩
  | .rulesLoaded count =>
      some ⟨"permissions.loader", .info, "Rules loaded", [("rule_count", .int count)]⟩
  | .clientReady count =>
      some ⟨"permissions.client", .info, "Permission client initialized",
        [("rule_count", .int count)]⟩
  | .fileUnreadable path message =>
      some ⟨"permissions.file_source", .error, "Rule file unreadable",
        [("path", .text path), ("error", .text message)]⟩
  | .fileMalformed path message =>
      some ⟨"permissions.file_source", .error, "Rule file is not valid YAML/JSON",
        [("path", .text path), ("error", .text message)]⟩
  | .fetchFailed url message =>
      some ⟨"permissions.http_source", .error, "Rule source HTTP error",
        [("url", url), ("error", .text message)]⟩
  | .fetchRefused url status =>
      some ⟨"permissions.http_source", .error, "Rule source returned error status",
        [("url", url), ("status_code", .int status)]⟩
  | .fetched url => some ⟨"permissions.http_source", .debug, "Rules fetched", [("url", url)]⟩
  | .loggingConfigured service level =>
      some ⟨service ++ ".logging", .debug, "Logging configured", [("log_level", level)]⟩

/-- What a notice adds to the counters. -/
def Metrics.observe (metrics : Metrics) : Notice → Metrics
  | .conditionFailed _ resource _ _ => metrics.recordConditionError resource.type
  | .decided _ resource action decision =>
      metrics.recordDecision resource.type action decision.allowed
  | .loadFailed _ => metrics.recordLoad "failure" none
  | .rulesLoaded count => metrics.recordLoad "success" (some (count : Int))
  | _ => metrics

/-- The notices of a decision on a request: a notice of each condition that failed, and one of the
decision. -/
def Resolver.noticesOf (resolver : Resolver) (subject : Subject) (resource : Resource)
    (action : Document) (verdict : Verdict) : List Notice :=
  verdict.reports.map (fun report =>
      .conditionFailed subject resource report resolver.evaluator.announces) ++
    [.decided subject resource action verdict.decision]

end AccessRules
