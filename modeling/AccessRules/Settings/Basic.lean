import AccessRules.Failure
import AccessRules.Settings.EnvFile
import AccessRules.Text.Breaks
import AccessRules.Text.LetterCase

/-!
# Settings

What an engine is set up with. Every setting has a default. The surroundings set it by a variable
whose name is that of the setting behind a common beginning, a file of variables does so in the
same way, and whoever starts the engine may give it directly; the last of these that is there
counts. Case does not matter in the names of variables; what is given directly goes by the very name
of its setting. Names of no setting are passed over.

* `Settings.read` — the settings from all three, or every issue with them.
-/

namespace AccessRules

/-- The settings of an engine. -/
structure Settings where
  environment : String
  logLevel : String
  service : String
  /-- Where rules are asked for on the network. -/
  rulesUrl : Option String
  /-- The file that holds the rules. -/
  rulesFile : Option String
  /-- How many seconds an answer from the network may take. -/
  timeout : Float
  /-- What proves to the network that the engine may ask. -/
  authToken : Option String
  /-- Are decisions and loads counted? -/
  countsEvents : Bool
  deriving Repr

namespace Settings

/-- The name of the model in issues. -/
def modelName : String := "PermissionsSettings"

/-- What the names of variables begin with. -/
def variableLead : String := "permissions_"

/-- A name in lower case. -/
def lowerName (name : String) : String := String.ofList (Text.lower name.toList)

/-- Where settings come from: what is given directly, the variables of the surroundings, and those
of a file. Which file that is, and how the names of variables begin, is fixed: to give other ones is
no setting. -/
structure Origins where
  given : Members
  surroundings : List (String × String)
  file : Variables

/-- The origins with the text of a file of variables, if there is one. -/
def Origins.ofText (given : Members) (surroundings : List (String × String))
    (text : Option String) : Origins :=
  let file := text.map fun text =>
    EnvFile.evaluate surroundings (Text.unifyBreaks text.toList)
  ⟨given, surroundings, file.getD []⟩

/-- The last value of a name in any case. -/
def lastNamed {α : Type} (name : String) (entries : List (String × α)) : Option α :=
  (entries.reverse.find? fun entry => lowerName entry.1 == name).map (·.2)

/-- The value of a setting, if any is given. -/
def Origins.find? (origins : Origins) (name : String) : Option Document :=
  (origins.given.get? name).orElse fun _ =>
    (((lastNamed (variableLead ++ name) origins.surroundings).map some).orElse fun _ =>
      lastNamed (variableLead ++ name) origins.file).join.map .text

/-- A value that has an issue. -/
def refuse {α : Type} (name : String) (complaint : Complaint) (value : Document) : Checked α :=
  .error [⟨complaint, [.name name], value⟩]

/-- A setting that is a text. -/
def readText (origins : Origins) (name default : String) : Checked String :=
  match origins.find? name with
  | none => .ok default
  | some value => match value.text? with
    | some text => .ok text
    | none => refuse name .notText value

/-- A setting that is a text or nothing. -/
def readOptional (origins : Origins) (name : String) : Checked (Option String) :=
  match origins.find? name with
  | none | some .null => .ok none
  | some value => match value.text? with
    | some text => .ok (some text)
    | none => refuse name .notText value

/-- A decimal numeral with a sign, or the name of an infinity or of not-a-number in any case. -/
def plainFloat? (text : List Char) : Option Float := do
  let (negative, rest) := Number.splitSign text
  let name := String.ofList (rest.map Number.plainLower)
  if name == "inf" || name == "infinity" then
    return Number.ofMagnitudeBits negative Number.infinityBits
  if name == "nan" then return 0.0 / 0.0
  return (← Number.decimalParts? rest).toFloat negative

/-- A numeral without its underscores, which stand neither first nor last nor in a row. -/
def withoutUnderscores? (text : List Char) : Option (List Char) :=
  let inRow := (text.zip text.tail).any fun pair => pair.1 == '_' && pair.2 == '_'
  if text.head? == some '_' || text.getLast? == some '_' || inRow then none
  else some (text.filter (· != '_'))

/-- The float that a text is: blanks may surround it, or underscores may stand inside. -/
def textFloat? (text : List Char) : Option Float :=
  (plainFloat? (Text.trimBoth Text.isNumeralBlank text)).orElse fun _ =>
    (withoutUnderscores? text).bind plainFloat?

/-- The float that a value stands for. -/
def toFloat (value : Document) : Except Complaint Float :=
  match value with
  | .float x => .ok x
  | .bool b => .ok (if b then 1.0 else 0.0)
  | .int i => match Number.ofInt? i with
    | some x => .ok x
    | none => .error .notNumber
  | value => match value.text? with
    | some text => match textFloat? text.toList with
      | some x => .ok x
      | none => .error .unreadableNumber
    | none => .error .notNumber

/-- A setting that is a number above zero. -/
def readPositive (origins : Origins) (name : String) (default : Float) : Checked Float :=
  match origins.find? name with
  | none => .ok default
  | some value => match toFloat value with
    | .ok x => if 0.0 < x then .ok x else refuse name .notPositive value
    | .error complaint => refuse name complaint value

/-- The texts that stand for a truth value. -/
def truthTexts : List (String × Bool) :=
  [("0", false), ("off", false), ("f", false), ("false", false), ("n", false), ("no", false),
   ("1", true), ("on", true), ("t", true), ("true", true), ("y", true), ("yes", true)]

/-- The truth value that an integer stands for. -/
def intTruth : Int → Except Complaint Bool
  | 0 => .ok false
  | 1 => .ok true
  | _ => .error .unreadableBool

/-- Floats from this size on stand for no truth value. -/
def wholeLimit : Nat := Nat.pow 2 63

/-- The truth value that a value stands for. -/
def toBool (value : Document) : Except Complaint Bool :=
  match value with
  | .bool b => .ok b
  | .int i => intTruth i
  | .float x => match Number.Exact.ofFloat? x with
    | some exact =>
        if exact.isWhole && exact.toInt.natAbs < wholeLimit then intTruth exact.toInt
        else .error .notBool
    | none => .error .notBool
  | value => match value.text? with
    | some text =>
        match truthTexts.lookup (String.ofList (text.toList.map Number.plainLower)) with
        | some b => .ok b
        | none => .error .unreadableBool
    | none => .error .notBool

/-- A setting that is a truth value. -/
def readBool (origins : Origins) (name : String) (default : Bool) : Checked Bool :=
  match origins.find? name with
  | none => .ok default
  | some value => match toBool value with
    | .ok b => .ok b
    | .error complaint => refuse name complaint value

/-- How many seconds an answer may take when nothing else is said. -/
def defaultTimeout : Float := 10.0

/-- The settings from all origins, or every issue with them, in the order of the settings. -/
def read (origins : Origins) : Except Failure Settings :=
  let environment := readText origins "env" "local"
  let logLevel := readText origins "log_level" "info"
  let service := readText origins "service_name" "permissions"
  let url := readOptional origins "rules_url"
  let file := readOptional origins "rules_file"
  let timeout := readPositive origins "rules_timeout_seconds" defaultTimeout
  let token := readOptional origins "rules_auth_token"
  let counts := readBool origins "enable_metrics" true
  match environment, logLevel, service, url, file, timeout, token, counts with
  | .ok environment, .ok logLevel, .ok service, .ok url, .ok file, .ok timeout, .ok token,
      .ok counts =>
      .ok ⟨environment, logLevel, service, url, file, timeout, token, counts⟩
  | environment, logLevel, service, url, file, timeout, token, counts =>
      .error (.invalid modelName
        (environment.issues ++ logLevel.issues ++ service.issues ++ url.issues ++ file.issues ++
          timeout.issues ++ token.issues ++ counts.issues))

/-- The settings as an object. -/
def toDocument (settings : Settings) : Document :=
  let optional (text : Option String) : Document := (text.map Document.text).getD .null
  .record
    [("env", .text settings.environment), ("log_level", .text settings.logLevel),
     ("service_name", .text settings.service), ("rules_url", optional settings.rulesUrl),
     ("rules_file", optional settings.rulesFile),
     ("rules_timeout_seconds", .float settings.timeout),
     ("rules_auth_token", optional settings.authToken),
     ("enable_metrics", .bool settings.countsEvents)]

end Settings

end AccessRules
