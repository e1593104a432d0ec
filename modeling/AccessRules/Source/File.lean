import AccessRules.Loading
import AccessRules.Text.Breaks
import AccessRules.Yaml.Value

/-!
# Rule files

A rule file is a YAML text, and so may be JSON. It holds an envelope of rules or the bare list of
them; an empty file holds no rules.

Not every text is followed to its end here. What the reader of a system makes of such a text, and
the words in which it complains, stand beside the bytes of a file as a `Remark`.

* `RuleFile.read` — what the bytes of a file are read as;
* `RuleFile.fetch` — what reading a file comes to, told in the journal when it fails.
-/

namespace AccessRules

/-- How the reading of a text ends: with a value, or without one. -/
inductive Yaml.Ending where
  | value (value : Document)
  | malformed
  | fault (fault : Fault)
  deriving Repr

/-- What the reader of a system says about a text of which this library does not know it: its words
for what is malformed there, and how it ends if the text is not followed. -/
structure Yaml.Remark where
  words : String
  ending : Yaml.Ending
  deriving Repr

/-- What a path leads to. -/
inductive FileState where
  | missing
  | directory
  | content (bytes : List UInt8) (remark : Yaml.Remark)
  deriving Repr

/-- A file of rules: its path, and what the path leads to. -/
structure RuleFile where
  path : String
  state : FileState
  deriving Repr

namespace RuleFile

/-- The parts of a path between slashes that count: neither empty ones nor single points. -/
def pathParts (path : String) : List String :=
  ((Text.splitBy ['/'] (path.length + 1) (path.length + 1) path.toList).map String.ofList).filter
    fun part => part != "" && part != "."

/-- The slashes in front of a path from the root: exactly two are kept, any other number counts
as one. -/
def rootOf (path : String) : String :=
  match (path.toList.takeWhile (· == '/')).length with
  | 0 => ""
  | 2 => "//"
  | _ => "/"

/-- A path without the parts that do not count. -/
def plainPath (path : String) : String :=
  let plain := rootOf path ++ "/".intercalate (pathParts path)
  if plain.isEmpty then "." else plain

/-- The report on a file. -/
def report (path message : String) (detail : String × Document) : Failure :=
  .report (.of .ruleLoad message [("path", .text path), detail])

/-- A file that cannot be opened. -/
def unreadable (engine : Engine) (path : String) (number : Nat) (words : String) :
    Fetched × Engine :=
  let error := "[Errno " ++ Number.writtenInt number ++ "] " ++ words ++ ": " ++ Text.quoted path
  (.error (report path "Rule file unreadable" ("error", .text error)),
    engine.tell none (.fileUnreadable path error))

/-- A file that holds no YAML text of one document, in the words of its reader. -/
def malformed (engine : Engine) (path words : String) : Fetched × Engine :=
  (.error (report path "Rule file is not valid YAML/JSON" ("error", .text words)),
    engine.tell none (.fileMalformed path words))

/-- The envelope that a value makes: nothing counts as an empty list, and a bare list is put into
an envelope. -/
def envelope (path : String) : Document → Fetched
  | .null => .ok (.document (.record [("data", .array [])]))
  | .array items => .ok (.document (.record [("data", .array items)]))
  | .object members => .ok (.document (.object members))
  | other =>
      .error (report path "Rule file must contain a list or a 'data' mapping"
        ("type", .text other.kind))

/-- Fewer bytes than these are decoded, and their characters checked, before any of them is read. -/
def pieceSize : Nat := 8192

/-- What the bytes of a file are read as. A longer file is decoded and checked piece by piece while
it is read, so that something else may go wrong in front of what is wrong there; it is not followed
then. -/
def read (bytes : List UInt8) : Except Yaml.Trouble Document :=
  match Text.Utf8.decode? bytes with
  | none => .error (if bytes.length < pieceSize then .fault .undecodable else .beyond)
  | some text =>
      if bytes.length < pieceSize || (Text.unifyBreaks text).all Yaml.isAllowed then
        Yaml.read (Text.unifyBreaks text)
      else .error .beyond

/-- A file is read as a value when its text is. -/
theorem read_of_text {bytes : List UInt8} {text : List Char} {value : Document}
    (decoded : Text.Utf8.decode? bytes = some text)
    (found : Yaml.read (Text.unifyBreaks text) = .ok value) : read bytes = .ok value := by
  simp [read, decoded, found, Yaml.allowed_of_read found]

/-- How the reading of a file ends: as it does here, or as is remarked when it is not followed. -/
def ending (bytes : List UInt8) (remark : Yaml.Remark) : Yaml.Ending :=
  match read bytes with
  | .ok value => .value value
  | .error .malformed => .malformed
  | .error (.fault fault) => .fault fault
  | .error .beyond => remark.ending

/-- What reading the file comes to. -/
def fetch (file : RuleFile) (engine : Engine) : Fetched × Engine :=
  let path := plainPath file.path
  match file.state with
  | .missing => unreadable engine path 2 "No such file or directory"
  | .directory => unreadable engine path 21 "Is a directory"
  | .content bytes remark => match ending bytes remark with
    | .value value => (envelope path value, engine)
    | .malformed => malformed engine path remark.words
    | .fault fault => (.error (.fault fault), engine)

end RuleFile

end AccessRules
