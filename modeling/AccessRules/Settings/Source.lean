import AccessRules.Settings.Basic
import AccessRules.Source.File
import AccessRules.Source.Http

/-!
# The source that settings choose

Rules are asked for on the network when an address is set, and read from a file otherwise.

* `Settings.source` — the source that the settings choose;
* `RuleSource.fetch` — what asking a source comes to.
-/

namespace AccessRules

/-- A source of rules. -/
inductive RuleSource where
  | network (address : RuleAddress)
  | file (path : String)
  deriving Repr

/-- What the sources of rules hold at some time: what each path leads to, and what would come of
each request. -/
structure Providers where
  files : String → FileState
  network : RuleAddress → Reply

/-- What asking a source comes to. -/
def RuleSource.fetch (source : RuleSource) (providers : Providers) (engine : Engine) :
    Fetched × Engine :=
  match source with
  | .network address => address.fetch (providers.network address) engine
  | .file path => (RuleFile.mk path (providers.files path)).fetch engine

namespace Settings

/-- A setting that counts: one that is not empty. -/
def nonempty (setting : Option String) : Option String := setting.filter (!·.isEmpty)

/-- The headers that a request carries: a proof that the engine may ask, if there is one. -/
def headers (settings : Settings) : Document :=
  match nonempty settings.authToken with
  | some token => .record [("Authorization", .text ("Bearer " ++ token))]
  | none => .empty

/-- The settings that choose a source. -/
def sourceVariables : List String := ["PERMISSIONS_RULES_URL", "PERMISSIONS_RULES_FILE"]

/-- The report that no source is set. -/
def noSource : Report :=
  .of .validation "No rule source configured" [("settings", .texts sourceVariables)]

/-- The source that the settings choose. An address wins over a file. -/
def source (settings : Settings) : Except Failure RuleSource :=
  match nonempty settings.rulesUrl, nonempty settings.rulesFile with
  | some url, _ => .ok (.network ⟨.text url, .float settings.timeout, settings.headers⟩)
  | none, some path => .ok (.file (RuleFile.plainPath path))
  | none, none => .error (.report noSource)

end Settings

end AccessRules
