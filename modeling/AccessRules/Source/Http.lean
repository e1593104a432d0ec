import AccessRules.Json.Read
import AccessRules.Loading
import AccessRules.Text.Encoding

/-!
# Rules from the network

A source of rules on the network answers a request with a status and a body. Only a plain success
counts, and its body has to be a JSON text.

* `RuleAddress.request` — what is asked for;
* `RuleAddress.fetch` — what an answer comes to, told in the journal.
-/

namespace AccessRules

/-- What came of a request. -/
inductive Reply where
  /-- The request failed on its way. -/
  | failed (message : String)
  | answered (status : Int) (body : List UInt8)
  deriving DecidableEq, Repr

/-- Where rules are asked for: the address, how long an answer may take, and the headers of the
request. -/
structure RuleAddress where
  url : Document
  timeout : Document
  headers : Document
  deriving Repr

/-- A request for rules. -/
structure NetworkRequest where
  method : String
  url : Document
  headers : Document
  timeout : Document
  deriving Repr

namespace RuleAddress

/-- How many seconds an answer may take when nothing else is said. -/
def defaultTimeout : Float := 10.0

/-- An address with the headers that count: none when what is given counts as false. -/
def ofParts (url : Document) (timeout headers : Option Document) : RuleAddress :=
  ⟨url, timeout.getD (.float defaultTimeout), (headers.getD .null).orElse .empty⟩

/-- The request for the rules. -/
def request (address : RuleAddress) : NetworkRequest :=
  ⟨"GET", address.url, address.headers, address.timeout⟩

/-- The status of a plain success. -/
def success : Int := 200

/-- The report on an address. -/
def report (address : RuleAddress) (message : String) (detail : String × Document) : Failure :=
  .report (.of .ruleLoad message [("url", address.url), detail])

/-- The document of a body: a JSON text in any encoding of Unicode. -/
def readBody? (body : List UInt8) : Option Document := do Json.read? (← Text.Encoding.read? body)

/-- What a reply comes to. The report on a body that is no JSON text says just that; where and why
the reading of it stopped is not told here. -/
def fetch (address : RuleAddress) (reply : Reply) (engine : Engine) : Fetched × Engine :=
  match reply with
  | .failed message =>
      (.error (address.report "Rule source unavailable" ("http_error", .text message)),
        engine.tell none (.fetchFailed address.url message))
  | .answered status body =>
      if status != success then
        (.error (address.report ("Rule source error: " ++ Number.writtenInt status)
            ("status_code", .int status)),
          engine.tell none (.fetchRefused address.url status))
      else match readBody? body with
        | some document => (.ok (.document document), engine.tell none (.fetched address.url))
        | none =>
            (.error (address.report "Rule source returned invalid JSON"
              ("error", .text "not a JSON text")), engine)

end RuleAddress

end AccessRules
