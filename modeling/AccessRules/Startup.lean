import AccessRules.Client
import AccessRules.Log.Setup
import AccessRules.Settings.Source

/-!
# Starting a client

A client is started from settings: the log is set up, a collector is registered unless one is
given or nothing is counted, and the client is initialized from the source that the settings
choose. What was done before a step that fails stays done.

* `Engine.startClient` — start a client, whatever its source is;
* `Engine.attempt` — the same from the source that the settings choose, as it is by then.
-/

namespace AccessRules

/-- A start that is asked for. -/
structure Attempt where
  settings : Settings
  /-- The registry whose collector is given to count in. -/
  given : Option String
  providers : Providers

namespace Engine

/-- The registry that a client counts in: the one that is given, or else a new collector's, if
events are counted at all. -/
def collectorFor (engine : Engine) (settings : Settings) (given : Option String)
    (registry : String) : Except Failure (Option String × Engine) :=
  match given with
  | some collector => .ok (some collector, engine)
  | none =>
      if settings.countsEvents then do
        return (some registry, ← Failure.lift (engine.register registry settings.service))
      else .ok (none, engine)

/-- Initialize a new client from the source that the settings choose. -/
def openClient (engine : Engine) (settings : Settings) (collector : Option String)
    (fetch : RuleSource → Engine → Fetched × Engine) : Except Failure Client × Engine :=
  match settings.source with
  | .error failure => (.error failure, engine)
  | .ok source =>
      match (Client.new .standard collector).initializeByFetch engine (fetch source) with
      | (.ok _, client, engine) => (.ok client, engine)
      | (.error failure, _, engine) => (.error failure, engine)

/-- Start a client. -/
def startClient (engine : Engine) (settings : Settings) (given : Option String)
    (registry : String) (fetch : RuleSource → Engine → Fetched × Engine) :
    Except Failure Client × Engine :=
  match engine.configureLogging settings.service (.text settings.logLevel) with
  | (.error failure, engine) => (.error failure, engine)
  | (.ok _, engine) => match engine.collectorFor settings given registry with
    | .error failure => (.error failure, engine)
    | .ok (collector, engine) => engine.openClient settings collector fetch

/-- Start a client as asked, and register its collector, if it needs one, in the registry. -/
def attempt (engine : Engine) (registry : String) (attempt : Attempt) :
    Except Failure Client × Engine :=
  engine.startClient attempt.settings attempt.given registry fun source =>
    source.fetch attempt.providers

end Engine

end AccessRules
