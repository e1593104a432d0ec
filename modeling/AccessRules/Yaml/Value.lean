import AccessRules.Document.Written
import AccessRules.Number.Parse
import AccessRules.Text.Base64
import AccessRules.Text.LetterCase
import AccessRules.Text.Search
import AccessRules.Yaml.Node.Reader
import AccessRules.Yaml.Token.Lexer

/-!
# Values of YAML texts

A text becomes tokens, the tokens become the nodes of one document, and the nodes become values.
Values are built level by level from the root: of several troubles the one nearest to the root is
reported, of equally near ones the first.

* `Yaml.read` — the value of a text; nothing for an empty text.
-/

namespace AccessRules.Yaml

open AccessRules.Number

/-- Give a sign to an integer. -/
def withSign (negative : Bool) (value : Int) : Int := if negative then -value else value

/-- The parts of a text between colons. -/
def colonParts (text : List Char) : List String :=
  (Text.splitBy [':'] (text.length + 1) (text.length + 1) text).map String.ofList

/-- The integer of a scalar: underscores do not count, a zero in front announces base eight, and
colons separate powers of sixty. -/
def intOf (text : String) : Except Fault Int :=
  let (negative, digits) := splitSign (text.toList.filter (· != '_'))
  match digits with
  | [] => .error .outOfRange
  | ['0'] => .ok 0
  | '0' :: 'b' :: rest => (parseIntIn 2 (String.ofList rest)).map (withSign negative)
  | '0' :: 'x' :: rest => (parseIntIn 16 (String.ofList rest)).map (withSign negative)
  | '0' :: rest => (parseIntIn 8 (String.ofList ('0' :: rest))).map (withSign negative)
  | digits =>
      if digits.contains ':' then do
        let parts ← (colonParts digits).mapM parseInt
        return withSign negative (parts.foldl (fun value part => value * 60 + part) 0)
      else (parseInt (String.ofList digits)).map (withSign negative)

/-- The sum of parts and powers of sixty, from the least one on. -/
def sixtiesSum (value : Float) (base : Int) : List Float → Except Fault Float
  | [] => .ok value
  | part :: rest => match ofInt? base with
    | some factor => sixtiesSum (value + part * factor) (base * 60) rest
    | none => .error .tooLarge

/-- The float of a scalar: underscores do not count, special values begin with a point, and colons
separate powers of sixty. -/
def floatOf (text : String) : Except Fault Float :=
  let chars := Text.lower (text.toList.filter (· != '_'))
  if chars.isEmpty then .error .outOfRange
  else
    let (negative, digits) := splitSign chars
    let body := String.ofList digits
    if body == ".inf" then .ok (ofMagnitudeBits negative infinityBits)
    else if body == ".nan" then .ok (0.0 / 0.0)
    else if digits.contains ':' then do
      let parts ← (colonParts digits).mapM parseFloat
      let size ← sixtiesSum 0.0 1 parts.reverse
      return if negative then -size else size
    else parseSigned negative body

/-- The truth value of a scalar. -/
def boolOf (text : String) : Except Fault Bool :=
  let word := String.ofList (Text.lower text.toList)
  if ["yes", "true", "on"].contains word then .ok true
  else if ["no", "false", "off"].contains word then .ok false
  else .error .missingKey

/-- A byte inside quotes. -/
def quoteByte (quote : Char) (byte : UInt8) : List Char :=
  let c := Char.ofNat byte.toNat
  if c == quote || c == '\\' then ['\\', c]
  else if c == '\t' then ['\\', 't']
  else if c == '\n' then ['\\', 'n']
  else if c == '\r' then ['\\', 'r']
  else if byte < 0x20 || 0x7F ≤ byte then '\\' :: 'x' :: Text.hexDigits 2 byte.toNat
  else [c]

/-- Bytes as a value. -/
def bytesLeaf (bytes : List UInt8) : Leaf :=
  let quote := Text.quoteFor (bytes.map fun byte => Char.ofNat byte.toNat)
  let text := String.ofList ('b' :: quote :: bytes.flatMap (quoteByte quote) ++ [quote])
  ⟨"bytes", text, text⟩

/-- A set of keys as a value. -/
def setLeaf (keys : List Key) : Leaf :=
  let names := keys.map fun key => key.display.toOption.getD ""
  let text := if names.isEmpty then "set()" else "\x7b" ++ commaSeparated names ++ "\x7d"
  ⟨"set", text, text⟩

/-- The value of a scalar. Marks of merges and scalars of unknown kinds have none. -/
def scalarValue (tag : Tag) (text : String) : Except Trouble Document :=
  let orFault {α : Type} (value : Except Fault α) : Except Trouble α := value.mapError .fault
  match tag with
  | .null => .ok .null
  | .bool => (orFault (boolOf text)).map .bool
  | .int => (orFault (intOf text)).map .int
  | .float => (orFault (floatOf text)).map .float
  | .text => .ok (.text text)
  | .timestamp => match Stamp.ofText? (withoutFinalBreak text.toList) with
    | some stamp => (orFault stamp.toLeaf).map .leaf
    | none => .error (.fault .unknownName)
  | .binary =>
      if text.toList.all fun c => c.toNat < 0x80 then
        match Text.Base64.decode? text.toList with
        | some bytes => .ok (.leaf (bytesLeaf bytes))
        | none => .error .malformed
      else .error .malformed
  | _ => .error .malformed

/-- Does the tag stand for a collection? -/
def Tag.isCollection : Tag → Bool
  | .sequence | .mapping | .set | .pairs => true
  | _ => false

/-- A value, or the trouble with it and how many levels below it is found. -/
abbrev Built (α : Type) := Except (Nat × Trouble) α

/-- Two values, or the nearer trouble. -/
def Built.both {α β : Type} : Built α → Built β → Built (α × β)
  | .ok a, .ok b => .ok (a, b)
  | .error x, .ok _ => .error x
  | .ok _, .error y => .error y
  | .error x, .error y => .error (if y.1 < x.1 then y else x)

/-- A value that is built one level below. -/
def Built.below {α : Type} (built : Built α) : Built α :=
  built.mapError fun trouble => (trouble.1 + 1, trouble.2)

namespace Node

mutual

/-- The text of a scalar; a mapping stands for the value of its value mark. -/
def scalarText : Node → Except Trouble String
  | scalar _ text => .ok text
  | sequence _ _ => .error .malformed
  | mapping _ merges pairs => if merges then .error .beyond else markedText pairs

/-- The text of the value of a value mark. -/
def markedText : List (Node × Node) → Except Trouble String
  | [] => .error .malformed
  | (key, value) :: rest =>
      if key.tag == .value then scalarText value else markedText rest

end

/-- The value of a node that should be a scalar. A date is looked for in the node itself, where a
mapping has none. -/
def scalarBuilt (node : Node) : Built Document :=
  match node.scalarText, node with
  | .error trouble, _ => .error (0, trouble)
  | .ok _, mapping .timestamp _ _ => .error (0, .fault .wrongKind)
  | .ok text, node => (scalarValue node.tag text).mapError (0, ·)

/-- The key of a node: a value mark is a text, and collections are no keys. -/
def key (node : Node) : Built Key :=
  if node.tag.isCollection then .error (0, .malformed)
  else if node.tag == .value then match node with
    | scalar _ text => .ok (.text text)
    | _ => .error (0, .malformed)
  else do match (← node.scalarBuilt).toKey? with
    | some key => return key
    | none => .error (0, .malformed)

mutual

/-- The value of a node. -/
def build : Node → Built Document
  | scalar tag text =>
      if tag.isCollection then .error (1, .malformed) else (scalar tag text).scalarBuilt
  | sequence tag items => match tag with
    | .sequence => (buildItems items).below.map .array
    | .pairs => (buildPairs items).below.map .array
    | tag => .error (if tag.isCollection then 1 else 0, .malformed)
  | mapping tag merges pairs => match tag with
    | .mapping => (buildMembers pairs).below.map fun members => .object (Members.ofList members)
    | .set => (buildMembers pairs).below.map fun members =>
        .leaf (setLeaf ((Members.ofList members).map (·.1)))
    | .sequence | .pairs => .error (1, .malformed)
    | tag => (mapping tag merges pairs).scalarBuilt

/-- The values of the items of a list. -/
def buildItems : List Node → Built (List Document)
  | [] => .ok []
  | item :: rest => (item.build.both (buildItems rest)).map fun (value, values) => value :: values

/-- The keys and values of a mapping. -/
def buildMembers : List (Node × Node) → Built (List (Key × Document))
  | [] => .ok []
  | (key, value) :: rest =>
      (key.key.both (value.build.both (buildMembers rest))).map
        fun (key, value, members) => (key, value) :: members

/-- The pairs of a list of mappings of one pair each. Merges are not done there by themselves. -/
def buildPairs : List Node → Built (List Document)
  | [] => .ok []
  | mapping _ true _ :: _ => .error (0, .beyond)
  | mapping _ false [(key, value)] :: rest =>
      (key.build.both (value.build.both (buildPairs rest))).map
        fun (key, value, pairs) => .array [key, value] :: pairs
  | _ :: _ => .error (0, .malformed)

end

end Node

/-- The value of a text; nothing for an empty text. -/
def read (text : List Char) : Except Trouble Document := do
  if !text.all isAllowed then .error .malformed
  else match ← Node.ofTokens (Token.ofText text) with
    | none => return .null
    | some node => node.build.mapError (·.2)

/-- Only texts of allowed characters are read. -/
theorem allowed_of_read {text : List Char} {value : Document} (found : read text = .ok value) :
    text.all isAllowed = true := by
  cases allowed : text.all isAllowed with
  | true => rfl
  | false =>
      rw [read, allowed] at found
      cases found

end AccessRules.Yaml
