import AccessRules.Yaml.Cursor

/-!
# Tokens of YAML

What a YAML text is made of: marks of documents, of collections and of their parts, and scalars
with their text. Collections by indentation have tokens for their beginning and their end, too.
-/

namespace AccessRules.Yaml

/-- A directive in front of a document. -/
inductive Directive where
  /-- The version of YAML: the number in front of the point. -/
  | version (major : Nat)
  /-- A handle of tags, and what it stands for. -/
  | tag (handle lead : String)
  | other
  deriving DecidableEq, Repr

/-- A tag as it is written: a handle, if it has one, and the rest. -/
structure TagText where
  handle : Option String
  suffix : String
  deriving DecidableEq, Repr

/-- A token. -/
inductive Token where
  | directive (directive : Directive)
  | documentStart
  | documentEnd
  | streamEnd
  | blockSequenceStart
  | blockMappingStart
  | blockEnd
  | flowSequenceStart
  | flowSequenceEnd
  | flowMappingStart
  | flowMappingEnd
  | blockEntry
  | flowEntry
  | key
  | value
  | alias (name : String)
  | anchor (name : String)
  | tag (tag : TagText)
  /-- A scalar, and whether it is plain: neither quoted nor a block. -/
  | scalar (text : String) (plain : Bool)
  /-- The text cannot be read beyond this point. -/
  | broken (trouble : Trouble)
  deriving DecidableEq, Repr

end AccessRules.Yaml
