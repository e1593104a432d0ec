import AccessRules.Yaml.Plain
import AccessRules.Yaml.Token

/-!
# Nodes from tokens

The tokens of a text are read as the nodes of its one document. An alias stands for the node that
its anchor was put on before; no anchor is put on two nodes. Behind the document nothing may come,
and directives that do come are read before that is found.

* `Node.ofTokens` — the node of the document; none for an empty text.
-/

namespace AccessRules.Yaml

/-- The tokens to be read, and what the names of anchors stand for. An anchor whose node is not
complete stands for nothing yet. -/
structure Feed where
  tokens : List Token
  anchors : List (String × Option Node)

/-- Reading from tokens. -/
abbrev Reading := StateT Feed (Except Trouble)

namespace Reading

/-- The text is malformed here. -/
def refuse {α : Type} : Reading α := throw .malformed

/-- The text is not followed from here on. -/
def leave {α : Type} : Reading α := throw .beyond

/-- The next token. -/
def peek : Reading Token := do
  match (← get).tokens with
  | [] => refuse
  | .broken trouble :: _ => throw trouble
  | token :: _ => return token

/-- Go over a token. -/
def advance : Reading Unit := modify fun feed => { feed with tokens := feed.tokens.tail }

/-- Is the next token one of some? -/
def isAt (tokens : List Token) : Reading Bool := return tokens.contains (← peek)

/-- Go over a token if it is the next one, and tell whether it was. -/
def accept (token : Token) : Reading Bool := do
  if (← peek) == token then
    advance
    return true
  else return false

/-- Go over a token that has to be there. -/
def need (token : Token) : Reading Unit := do
  if !(← accept token) then refuse

end Reading

open Reading

/-- The handles of tags and what they stand for. -/
abbrev Handles := List (String × String)

/-- The handles that need no directive. -/
def Handles.standard : Handles := [("!", "!"), ("!!", Tag.lead)]

/-- The name of a tag: the lone exclamation mark is `none`. -/
def tagName (handles : Handles) (tag : TagText) : Reading (Option String) := do
  let name ← match tag.handle with
    | none => pure tag.suffix
    | some handle => match handles.lookup handle with
      | some lead => pure (lead ++ tag.suffix)
      | none => refuse
  return if name == "!" then none else some name

/-- What stands in front of a node: the name of an anchor, and a tag. -/
structure Properties where
  anchor : Option String
  tag : Option TagText

/-- The properties in front of a node, in either order. -/
def properties : Reading Properties := do
  let anchor : Reading (Option String) := do
    match ← peek with
    | .anchor name => advance; return some name
    | _ => return none
  let tag : Reading (Option TagText) := do
    match ← peek with
    | .tag tag => advance; return some tag
    | _ => return none
  match ← anchor with
  | some name => return ⟨some name, ← tag⟩
  | none => match ← tag with
    | some tag => return ⟨← anchor, some tag⟩
    | none => return ⟨none, none⟩

/-- The node of a text that is not there. -/
def emptyNode : Node := .scalar .null ""

/-- Put an anchor on a node to come. -/
def announce (name : String) : Reading Unit := do
  if ((← get).anchors.lookup name).isSome then refuse
  modify fun feed => { feed with anchors := (name, none) :: feed.anchors }

/-- Put an anchor on a node. -/
def complete (name : String) (node : Node) : Reading Unit :=
  modify fun feed => { feed with anchors := (name, some node) :: feed.anchors }

/-- The node of an anchor. It is not followed while it is not complete, nor when it carries a mark
that it may have lost by the time it is looked at from here. -/
def nodeOf (name : String) : Reading Node := do
  match (← get).anchors.lookup name with
  | some (some node) => if node.marksValue then leave else return node
  | some none => leave
  | none => refuse

/-- Where a node stands: whether lists and mappings by indentation may stand there, and whether a
list may that is not indented deeper than its mapping. -/
inductive Standing where
  | flow
  | block
  | blockOrFlush
  deriving DecidableEq, Repr

mutual

/-- The next node. -/
def readNode (handles : Handles) (standing : Standing) : (bound : Nat) → Reading Node
  | 0 => refuse
  | bound + 1 => do
      match ← peek with
      | .alias name => advance; nodeOf name
      | _ =>
          let ⟨anchor, tag⟩ ← properties
          let name ← match tag with
            | some tag => tagName handles tag
            | none => pure none
          anchor.forM fun name => do
            let _ ← peek
            announce name
          let node ← readContent handles standing (anchor.isSome || tag.isSome) tag.isSome name
            bound
          anchor.forM fun name => complete name node
          return node

/-- What stands behind the properties of a node. It may be missing if there are any. -/
def readContent (handles : Handles) (standing : Standing) (mayMiss tagged : Bool)
    (name : Option String) : (bound : Nat) → Reading Node
  | 0 => refuse
  | bound + 1 => do
      let tagOr := fun (usual : Tag) => (name.map Tag.ofName).getD usual
      let inBlock := standing != .flow
      match ← peek with
      | .scalar text plain =>
          advance
          return .scalar (tagOr (if plain || tagged then Tag.ofPlain text else .text)) text
      | .flowSequenceStart =>
          advance
          return .sequence (tagOr .sequence) (← readFlowItems handles true bound)
      | .flowMappingStart =>
          advance
          return .ofPairs (tagOr .mapping) (← readFlowPairs handles true bound)
      | token =>
          if token == .blockEntry && standing == .blockOrFlush then
            return .sequence (tagOr .sequence) (← readFlushItems handles bound)
          else if token == .blockSequenceStart && inBlock then
            advance
            return .sequence (tagOr .sequence) (← readBlockItems handles bound)
          else if token == .blockMappingStart && inBlock then
            advance
            return .ofPairs (tagOr .mapping) (← readBlockPairs handles bound)
          else if mayMiss then return .scalar (tagOr .null) ""
          else refuse

/-- The items of a list by indentation. -/
def readBlockItems (handles : Handles) : (bound : Nat) → Reading (List Node)
  | 0 => refuse
  | bound + 1 => do
      if ← accept .blockEntry then
        let item ← readUnless handles .block [.blockEntry, .blockEnd] bound
        return item :: (← readBlockItems handles bound)
      else
        need .blockEnd
        return []

/-- The items of a list that is not indented deeper than its mapping. -/
def readFlushItems (handles : Handles) : (bound : Nat) → Reading (List Node)
  | 0 => refuse
  | bound + 1 => do
      if ← accept .blockEntry then
        let item ← readUnless handles .block [.blockEntry, .key, .value, .blockEnd] bound
        return item :: (← readFlushItems handles bound)
      else return []

/-- The pairs of a mapping by indentation. -/
def readBlockPairs (handles : Handles) : (bound : Nat) → Reading (List (Node × Node))
  | 0 => refuse
  | bound + 1 => do
      if ← accept .key then
        let ends : List Token := [.key, .value, .blockEnd]
        let key ← readUnless handles .blockOrFlush ends bound
        let value ← readValue handles .blockOrFlush ends bound
        return (key, value) :: (← readBlockPairs handles bound)
      else
        need .blockEnd
        return []

/-- The items of a list in brackets. -/
def readFlowItems (handles : Handles) (first : Bool) : (bound : Nat) → Reading (List Node)
  | 0 => refuse
  | bound + 1 => do
      if ← accept .flowSequenceEnd then return []
      else
        if !first then need .flowEntry
        if ← accept .flowSequenceEnd then return []
        else
          let item ← if ← accept .key then do
              let key ← readUnless handles .flow [.value, .flowEntry, .flowSequenceEnd] bound
              let value ← readValue handles .flow [.flowEntry, .flowSequenceEnd] bound
              pure (.ofPairs .mapping [(key, value)])
            else readNode handles .flow bound
          return item :: (← readFlowItems handles false bound)

/-- The pairs of a mapping in braces. -/
def readFlowPairs (handles : Handles) (first : Bool) :
    (bound : Nat) → Reading (List (Node × Node))
  | 0 => refuse
  | bound + 1 => do
      if ← accept .flowMappingEnd then return []
      else
        if !first then need .flowEntry
        if ← accept .flowMappingEnd then return []
        else
          let pair ← if ← accept .key then do
              let key ← readUnless handles .flow [.value, .flowEntry, .flowMappingEnd] bound
              let value ← readValue handles .flow [.flowEntry, .flowMappingEnd] bound
              pure (key, value)
            else pure (← readNode handles .flow bound, emptyNode)
          return pair :: (← readFlowPairs handles false bound)

/-- The next node, or an empty one in front of some tokens. -/
def readUnless (handles : Handles) (standing : Standing) (ends : List Token) :
    (bound : Nat) → Reading Node
  | 0 => refuse
  | bound + 1 => do
      if ← isAt ends then return emptyNode else readNode handles standing bound

/-- The value behind a colon; an empty node without a colon, or in front of some tokens. -/
def readValue (handles : Handles) (standing : Standing) (ends : List Token) :
    (bound : Nat) → Reading Node
  | 0 => refuse
  | bound + 1 => do
      if ← accept .value then readUnless handles standing ends bound else return emptyNode

end

/-- The directives in front of a document: at most one version, whose major number is one, and
every handle of tags at most once. -/
def readDirectives (versioned : Bool) (handles : Handles) : (bound : Nat) → Reading Handles
  | 0 => refuse
  | bound + 1 => do
      match ← peek with
      | .directive directive =>
          advance
          match directive with
          | .version major =>
              if versioned || major != 1 then refuse else readDirectives true handles bound
          | .tag handle lead =>
              if (handles.lookup handle).isSome then refuse
              else readDirectives versioned ((handle, lead) :: handles) bound
          | .other => readDirectives versioned handles bound
      | _ => return handles

/-- Go over marks that end documents. -/
def skipEnds : (bound : Nat) → Reading Unit
  | 0 => refuse
  | bound + 1 => do
      if ← accept .documentEnd then skipEnds bound

/-- What stands behind the document: nothing but marks that end it. -/
def readEnd (bound : Nat) : Reading Unit := do
  skipEnds bound
  if !(← accept .streamEnd) then
    let _ ← readDirectives false [] bound
    refuse

/-- The one document of a text: none when the text is empty. -/
def readDocument (bound : Nat) : Reading (Option Node) := do
  let node? ← match ← peek with
    | .streamEnd => return none
    | .directive _ | .documentStart => do
        let handles := (← readDirectives false [] bound) ++ Handles.standard
        need .documentStart
        match ← peek with
        | .directive _ | .documentStart | .documentEnd | .streamEnd => pure (some emptyNode)
        | _ => pure (some (← readNode handles .block bound))
    | _ => pure (some (← readNode Handles.standard .block bound))
  readEnd bound
  return node?

/-- The node of a document; none when there is no document. -/
def Node.ofTokens (tokens : List Token) : Except Trouble (Option Node) :=
  (readDocument (4 * tokens.length + 8)).run' ⟨tokens, []⟩

end AccessRules.Yaml
