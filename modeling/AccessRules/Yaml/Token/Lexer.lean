import AccessRules.Yaml.Name
import AccessRules.Yaml.Scalar

/-!
# Tokens of a text

A text is cut into tokens from its beginning to its end. Indentation opens and closes collections
outside brackets. Whether a scalar is a key shows only at the colon behind it; so the place where
a key may have begun is kept, one for the block and one for each open bracket, and the token of
the key is put there later.

* `Token.ofText` — the tokens of a text; where it cannot be read on, the last is `broken`.
-/

namespace AccessRules.Yaml

/-- A place where a key may have begun. -/
structure KeyPlace where
  /-- The number of tokens in front of it. -/
  before : Nat
  /-- Must a key begin here? -/
  required : Bool
  index : Nat
  line : Nat
  column : Nat
  deriving DecidableEq, Repr

/-- The most characters from the beginning of a key to its colon. -/
def keyLimit : Nat := 1024

/-- Is it too late for the colon of a key? -/
def KeyPlace.isStale (cursor : Cursor) (place : KeyPlace) : Bool :=
  place.line != cursor.line || keyLimit < cursor.index - place.index

/-- A text that has been cut into tokens up to a position. -/
structure Lexer where
  cursor : Cursor
  /-- The columns of the open collections by indentation, the innermost first. -/
  indents : List Nat
  /-- May a key begin here? -/
  allowsKey : Bool
  /-- Where a key may have begun in the innermost collection. -/
  place : Option KeyPlace
  /-- Where keys may have begun around the open brackets, the innermost first. -/
  outer : List (Option KeyPlace)
  /-- The tokens, the latest first. -/
  tokens : List Token
  deriving DecidableEq, Repr

namespace Lexer

/-- The beginning of a text. -/
def start (text : List Char) : Lexer := ⟨.start text, [], true, none, [], []⟩

/-- Is a bracket open? -/
def inFlow (lexer : Lexer) : Bool := !lexer.outer.isEmpty

/-- The column of the innermost collection by indentation, -1 outside of them. -/
def indent (lexer : Lexer) : Int :=
  match lexer.indents with
  | [] => -1
  | column :: _ => column

/-- Add a token. -/
def push (token : Token) (lexer : Lexer) : Lexer := { lexer with tokens := token :: lexer.tokens }

/-- Add a token for the next `n` characters. -/
def pushOver (token : Token) (n : Nat) (lexer : Lexer) : Lexer :=
  { lexer.push token with cursor := lexer.cursor.forward n }

/-- Set whether a key may begin. -/
def allowKey (allowsKey : Bool) (lexer : Lexer) : Lexer :=
  { lexer with allowsKey := allowsKey }

/-- Give up the place of a key. -/
def dropKey (lexer : Lexer) : Except Trouble Lexer :=
  if lexer.place.any (·.required) then .error .malformed else .ok { lexer with place := none }

/-- Keep the position as a place of a key, if one may begin. -/
def keepKey (lexer : Lexer) : Except Trouble Lexer :=
  if lexer.allowsKey then do
    let cursor := lexer.cursor
    let required := !lexer.inFlow && lexer.indent == cursor.column
    return { ← lexer.dropKey with
      place := some ⟨lexer.tokens.length, required, cursor.index, cursor.line, cursor.column⟩ }
  else .ok lexer

/-- Give up the places for whose colon it is too late. -/
def dropStale (lexer : Lexer) : Except Trouble Lexer :=
  let isStale := KeyPlace.isStale lexer.cursor
  if (lexer.place :: lexer.outer).any (·.any fun place => place.required && isStale place) then
    .error .malformed
  else
    let fresh := fun (place : Option KeyPlace) => place.filter (!isStale ·)
    .ok { lexer with place := fresh lexer.place, outer := lexer.outer.map fresh }

/-- Close the collections that are indented deeper than a column. -/
def unwind (column : Int) (lexer : Lexer) : Lexer :=
  if lexer.inFlow then lexer
  else
    let closed := lexer.indents.takeWhile fun (deep : Nat) => column < (deep : Int)
    { lexer with
      indents := lexer.indents.drop closed.length
      tokens := List.replicate closed.length .blockEnd ++ lexer.tokens }

/-- Open a collection at a column, unless one is open there. -/
def openBlock (column : Nat) (token : Token) (lexer : Lexer) : Lexer :=
  if lexer.indent < column then
    { lexer.push token with indents := column :: lexer.indents }
  else lexer

/-- Open a collection by indentation here. Inside brackets there are none. -/
def openHere (token : Token) (lexer : Lexer) : Except Trouble Lexer :=
  if lexer.inFlow then .ok lexer
  else if lexer.allowsKey then .ok (lexer.openBlock lexer.cursor.column token)
  else .error .malformed

/-- Go over blanks, comments and breaks. A key may begin on a new line. -/
def skipGap : (bound : Nat) → Lexer → Lexer
  | 0, lexer => lexer
  | bound + 1, lexer =>
      let cursor := lexer.cursor.skipSpaces.skipComment
      if cursor.peek.any isBreak then
        skipGap bound { lexer with
          cursor := cursor.lineBreak.2
          allowsKey := lexer.allowsKey || !lexer.inFlow }
      else { lexer with cursor := cursor }

/-- Go to the next token, and close what ends in front of it. -/
def toToken (lexer : Lexer) : Except Trouble Lexer := do
  let cursor := lexer.cursor
  let cursor :=
    if cursor.index == 0 && cursor.isAt byteOrderMark then cursor.step else cursor
  let lexer ← (skipGap (cursor.rest.length + 1) { lexer with cursor := cursor }).dropStale
  return lexer.unwind lexer.cursor.column

/-- The end of the text. -/
def finish (lexer : Lexer) : Except Trouble Lexer := do
  return (← (lexer.unwind (-1)).dropKey).push .streamEnd

/-- A mark between documents. -/
def separator (token : Token) (lexer : Lexer) : Except Trouble Lexer := do
  return ((← (lexer.unwind (-1)).dropKey).allowKey false).pushOver token 3

/-- A directive. -/
def directive (lexer : Lexer) : Except Trouble Lexer := do
  let lexer := (← (lexer.unwind (-1)).dropKey).allowKey false
  let (directive, cursor) ← readDirective lexer.cursor
  return { lexer.push (.directive directive) with cursor := cursor }

/-- An opening bracket. -/
def openBracket (token : Token) (lexer : Lexer) : Except Trouble Lexer := do
  let lexer ← lexer.keepKey
  return { (lexer.allowKey true).pushOver token 1 with
    place := none, outer := lexer.place :: lexer.outer }

/-- A closing bracket. -/
def closeBracket (token : Token) (lexer : Lexer) : Except Trouble Lexer := do
  let lexer ← lexer.dropKey
  match lexer.outer with
  | [] => .error .malformed
  | place :: outer =>
      return { (lexer.allowKey false).pushOver token 1 with place := place, outer := outer }

/-- A comma between brackets. -/
def comma (lexer : Lexer) : Except Trouble Lexer := do
  return (← (lexer.allowKey true).dropKey).pushOver .flowEntry 1

/-- The mark of an entry of a list. -/
def entryMark (lexer : Lexer) : Except Trouble Lexer := do
  let lexer ← lexer.openHere .blockSequenceStart
  return (← (lexer.allowKey true).dropKey).pushOver .blockEntry 1

/-- The mark of a key. -/
def keyMark (lexer : Lexer) : Except Trouble Lexer := do
  let lexer ← lexer.openHere .blockMappingStart
  return (← (lexer.allowKey !lexer.inFlow).dropKey).pushOver .key 1

/-- Put the token of a key at its place, and open a collection there if need be. -/
def insertKey (place : KeyPlace) (lexer : Lexer) : Lexer :=
  let behind := lexer.tokens.length - place.before
  let tokens := lexer.tokens.insertIdx behind .key
  if !lexer.inFlow && lexer.indent < place.column then
    { lexer with
      tokens := tokens.insertIdx (behind + 1) .blockMappingStart
      indents := place.column :: lexer.indents }
  else { lexer with tokens := tokens }

/-- The colon between a key and its value. -/
def colon (lexer : Lexer) : Except Trouble Lexer := do
  match lexer.place with
  | some place =>
      let lexer := ({ lexer with place := none }.insertKey place).allowKey false
      return lexer.pushOver .value 1
  | none =>
      let lexer ← lexer.openHere .blockMappingStart
      return (lexer.allowKey !lexer.inFlow).pushOver .value 1

/-- A token that a key may begin with, made from what is read. -/
def keyed {α : Type} (read : Cursor → Except Trouble (α × Cursor)) (token : α → Token)
    (lexer : Lexer) : Except Trouble Lexer := do
  let lexer := (← lexer.keepKey).allowKey false
  let (found, cursor) ← read lexer.cursor
  return { lexer.push (token found) with cursor := cursor }

/-- A scalar in quotes. -/
def quoted (double : Bool) (lexer : Lexer) : Except Trouble Lexer :=
  lexer.keyed (quotedScalar double) fun text => .scalar (String.ofList text) false

/-- A scalar as a block. -/
def block (folded : Bool) (lexer : Lexer) : Except Trouble Lexer := do
  let lexer ← (lexer.allowKey true).dropKey
  let (text, cursor) ← blockScalar folded lexer.indent lexer.cursor
  return { lexer.push (.scalar (String.ofList text) false) with cursor := cursor }

/-- A plain scalar. A key may begin behind its line breaks. -/
def plain (lexer : Lexer) : Except Trouble Lexer := do
  let lexer ← lexer.keepKey
  let (text, broke, cursor) := plainScalar lexer.inFlow (lexer.indent + 1) lexer.cursor
  return { (lexer.allowKey broke).push (.scalar (String.ofList text) true) with cursor := cursor }

/-- May a plain scalar begin with a character in front of another? -/
def beginsPlain (inFlow : Bool) (c : Char) (next : Option Char) : Bool :=
  !("-?:,[]\x7b\x7d#&*!|>'\"%@\x60".toList.contains c || isSpace c || isBreak c) ||
    (!Cursor.isGap next && (c == '-' || (!inFlow && (c == '?' || c == ':'))))

/-- Cut off the token that begins with a character. -/
def token (c : Char) (lexer : Lexer) : Except Trouble Lexer :=
  let cursor := lexer.cursor
  let atGap := Cursor.isGap (cursor.peekAt 1)
  if cursor.column == 0 && c == '%' then lexer.directive
  else if cursor.column == 0 && cursor.isMarker '-' then lexer.separator .documentStart
  else if cursor.column == 0 && cursor.isMarker '.' then lexer.separator .documentEnd
  else if c == '[' then lexer.openBracket .flowSequenceStart
  else if c == '\x7b' then lexer.openBracket .flowMappingStart
  else if c == ']' then lexer.closeBracket .flowSequenceEnd
  else if c == '\x7d' then lexer.closeBracket .flowMappingEnd
  else if c == ',' then lexer.comma
  else if c == '-' && atGap then lexer.entryMark
  else if c == '?' && (lexer.inFlow || atGap) then lexer.keyMark
  else if c == ':' && (lexer.inFlow || atGap) then lexer.colon
  else if c == '*' then lexer.keyed readAnchor .alias
  else if c == '&' then lexer.keyed readAnchor .anchor
  else if c == '!' then lexer.keyed readTag .tag
  else if c == '|' && !lexer.inFlow then lexer.block false
  else if c == '>' && !lexer.inFlow then lexer.block true
  else if c == '\'' then lexer.quoted false
  else if c == '"' then lexer.quoted true
  else if beginsPlain lexer.inFlow c (cursor.peekAt 1) then lexer.plain
  else .error .malformed

/-- The tokens in front of every place where a key may have begun. What stands behind such a place
is not settled before the text is cut further. -/
def settled (lexer : Lexer) : List Token :=
  let places := (lexer.place :: lexer.outer).filterMap fun place =>
    place.filter (!KeyPlace.isStale lexer.cursor ·)
  match (places.map (·.before)).min? with
  | some first => lexer.tokens.drop (lexer.tokens.length - first)
  | none => lexer.tokens

/-- Cut the rest of a text into tokens; the latest comes first. -/
def run : (bound : Nat) → Lexer → List Token
  | 0, lexer => .broken .malformed :: lexer.tokens
  | bound + 1, lexer => match lexer.toToken with
    | .error trouble => .broken trouble :: lexer.settled
    | .ok next => match next.cursor.peek with
      | none => match next.finish with
        | .error trouble => .broken trouble :: lexer.settled
        | .ok last => last.tokens
      | some c => match next.token c with
        | .error trouble => .broken trouble :: lexer.settled
        | .ok behind => run bound behind

end Lexer

/-- The tokens of a text, in order. -/
def Token.ofText (text : List Char) : List Token :=
  (Lexer.run (text.length + 1) (.start text)).reverse

end AccessRules.Yaml
