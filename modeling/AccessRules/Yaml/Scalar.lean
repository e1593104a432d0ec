import AccessRules.Text.Digit
import AccessRules.Json.Read
import AccessRules.Yaml.Token

/-!
# Texts of scalars

Reading a scalar: plain, in single or double quotes, or as an indented block. A line break inside
a scalar becomes a space where lines are folded; empty lines become line feeds. Each reader starts
at the first character of the scalar and gives its text and the position behind it.
-/

namespace AccessRules.Yaml

open AccessRules.Text

/-- The texts of the breaks behind a line break inside quotes. A document must not begin or end
there. -/
def quotedBreaks : (bound : Nat) → Cursor → Except Trouble (List Char × Cursor)
  | 0, cursor => .ok ([], cursor)
  | bound + 1, cursor =>
      if cursor.isSeparator then .error .malformed
      else
        let cursor := cursor.skipWhile isSpace
        if cursor.peek.any isBreak then do
          let (text, cursor) := cursor.lineBreak
          let (others, cursor) ← quotedBreaks bound cursor
          return (text ++ others, cursor)
        else .ok ([], cursor)

/-- The texts of a first break and of the breaks behind it, folded: a single line feed becomes a
space. -/
def fold (first others : List Char) : List Char :=
  if first != ['\n'] then first ++ others
  else if others.isEmpty then [' ']
  else others

/-- Blanks inside quotes: kept inside a line, folded at its end. -/
def quotedSpaces (cursor : Cursor) : Except Trouble (List Char × Cursor) := do
  let blanks := cursor.rest.takeWhile isSpace
  let cursor := cursor.forward blanks.length
  match cursor.peek with
  | none => .error .malformed
  | some c =>
      if isBreak c then
        let (first, cursor) := cursor.lineBreak
        let (others, cursor) ← quotedBreaks (cursor.rest.length + 1) cursor
        return (fold first others, cursor)
      else return (blanks, cursor)

/-- The character that a letter behind a backslash stands for. -/
def escapeOf? (letter : Char) : Option Char :=
  ([('0', '\x00'), ('a', '\x07'), ('b', '\x08'), ('t', '\t'), ('\t', '\t'), ('n', '\n'),
    ('v', '\x0b'), ('f', '\x0c'), ('r', '\r'), ('e', '\x1b'), (' ', ' '), ('"', '"'),
    ('\\', '\\'), ('/', '/'), ('N', '\x85'), ('_', '\xa0'), ('L', '\u2028'), ('P', '\u2029')] :
      List (Char × Char)).lookup letter

/-- The number of hexadecimal digits behind the letter of an escape. -/
def escapeWidth? (letter : Char) : Option Nat :=
  ([('x', 2), ('u', 4), ('U', 8)] : List (Char × Nat)).lookup letter

/-- The code that a numeric escape behind its backslash names, and the position behind it. -/
def codeEscape? (cursor : Cursor) : Option (Nat × Cursor) := do
  let width ← escapeWidth? (← cursor.peek)
  let digits := (cursor.rest.drop 1).take width
  if digits.length < width then none
  else return (← hexNumber? digits, cursor.forward (width + 1))

/-- The character of a code. Two halves of a character in a row do not make it up but stay two, and
characters are whole here: a text with halves is not followed. -/
def escapedChar (code : Nat) (cursor : Cursor) : Except Trouble (List Char × Cursor) :=
  if 0x80000000 ≤ code then .error (.fault .tooLarge)
  else if 0x110000 ≤ code then .error (.fault (.wrongValue .codePoint))
  else if Json.isHalf code then .error .beyond
  else .ok ([Char.ofNat code], cursor)

/-- An escape, behind its backslash. -/
def escape (cursor : Cursor) : Except Trouble (List Char × Cursor) :=
  match cursor.peek with
  | none => .error .malformed
  | some letter => match escapeOf? letter, codeEscape? cursor with
    | some c, _ => .ok ([c], cursor.step)
    | none, some (code, cursor) => escapedChar code cursor
    | none, none =>
        if isBreak letter then quotedBreaks (cursor.rest.length + 1) cursor.lineBreak.2
        else .error .malformed

/-- The text between quotes behind the opening one. -/
def quotedBody (double : Bool) : (bound : Nat) → Cursor → Except Trouble (List Char × Cursor)
  | 0, _ => .error .malformed
  | bound + 1, cursor => match cursor.peek with
    | none => .error .malformed
    | some c => do
        if isSpace c || isBreak c then
          let (text, cursor) ← quotedSpaces cursor
          let (others, cursor) ← quotedBody double bound cursor
          return (text ++ others, cursor)
        else if !double && c == '\'' && cursor.peekAt 1 == some '\'' then
          let (others, cursor) ← quotedBody double bound (cursor.forward 2)
          return ('\'' :: others, cursor)
        else if c == (if double then '"' else '\'') then return ([], cursor.step)
        else if double && c == '\\' then
          let (text, cursor) ← escape cursor.step
          let (others, cursor) ← quotedBody double bound cursor
          return (text ++ others, cursor)
        else
          let (others, cursor) ← quotedBody double bound cursor.step
          return (c :: others, cursor)

/-- A scalar in quotes. -/
def quotedScalar (double : Bool) (cursor : Cursor) : Except Trouble (List Char × Cursor) :=
  quotedBody double (cursor.rest.length + 1) cursor.step

/-- Does a plain scalar end in front of these characters? -/
def endsPlain (inFlow : Bool) : List Char → Bool
  | [] => true
  | c :: rest =>
      isSpace c || isBreak c ||
        (c == ':' && (Cursor.isGap rest.head? ||
          (inFlow && rest.head?.any fun next => [',', '[', ']', '{', '}'].contains next))) ||
        (inFlow && [',', '?', '[', ']', '{', '}'].contains c)

/-- The characters of a plain scalar up to the next blank. -/
def plainWord (inFlow : Bool) : List Char → List Char
  | [] => []
  | c :: rest => if endsPlain inFlow (c :: rest) then [] else c :: plainWord inFlow rest

/-- The breaks and leading spaces behind a line break in a plain scalar; none when a document
begins or ends there. -/
def plainBreaks : (bound : Nat) → Cursor → Option (List Char) × Cursor
  | 0, cursor => (some [], cursor)
  | bound + 1, cursor =>
      if cursor.isAt ' ' then plainBreaks bound cursor.step
      else if cursor.peek.any isBreak then
        let (text, cursor) := cursor.lineBreak
        if cursor.isSeparator then (none, cursor)
        else
          let (others, cursor) := plainBreaks bound cursor
          (others.map (text ++ ·), cursor)
      else (some [], cursor)

/-- What stands between two words of a plain scalar: blanks, or folded breaks. Empty when the
scalar ends. The flag tells whether a break was passed. -/
def plainSpaces (cursor : Cursor) : List Char × Bool × Cursor :=
  let blanks := cursor.rest.takeWhile (· == ' ')
  let cursor := cursor.forward blanks.length
  if cursor.peek.any isBreak then
    let (first, cursor) := cursor.lineBreak
    if cursor.isSeparator then ([], true, cursor)
    else match plainBreaks (cursor.rest.length + 1) cursor with
      | (some others, cursor) => (fold first others, true, cursor)
      | (none, cursor) => ([], true, cursor)
  else (blanks, false, cursor)

/-- A plain scalar whose lines are indented at least to `indent`; `gap` stands in front of its
next word. The flag tells whether the last thing passed was a break. -/
def plainFrom (inFlow : Bool) (indent : Int) :
    (bound : Nat) → (gap : List Char) → (broke : Bool) → Cursor → List Char × Bool × Cursor
  | 0, _, broke, cursor => ([], broke, cursor)
  | bound + 1, gap, broke, cursor =>
      if cursor.isAt '#' then ([], broke, cursor)
      else
        let word := plainWord inFlow cursor.rest
        if word.isEmpty then ([], broke, cursor)
        else
          let (spaces, broke, cursor) := plainSpaces (cursor.forward word.length)
          if spaces.isEmpty || cursor.isAt '#' || (!inFlow && (cursor.column : Int) < indent) then
            (gap ++ word, broke, cursor)
          else
            let (others, broke, cursor) := plainFrom inFlow indent bound spaces broke cursor
            (gap ++ word ++ others, broke, cursor)

/-- A plain scalar. -/
def plainScalar (inFlow : Bool) (indent : Int) (cursor : Cursor) : List Char × Bool × Cursor :=
  plainFrom inFlow indent (cursor.rest.length + 1) [] false cursor

/-- What becomes of the breaks at the end of a block. -/
inductive Chomping where
  /-- The last break is dropped. -/
  | strip
  /-- The last break stays, those of empty lines behind it do not. -/
  | clip
  /-- All breaks stay. -/
  | keep
  deriving DecidableEq, Repr

/-- The mark of chomping at the front of a text. -/
def chomping? (cursor : Cursor) : Option Chomping :=
  if cursor.isAt '+' then some .keep else if cursor.isAt '-' then some .strip else none

/-- The digit of an indentation at the front of a text. -/
def indentation? (cursor : Cursor) : Option Nat :=
  (cursor.peek.filter Number.isPlainDigit).map fun c => c.toNat - 48

/-- The header of a block behind its mark: how it is chomped, how far it is indented, in either
order. -/
def blockHeader (cursor : Cursor) : Except Trouble (Chomping × Option Nat × Cursor) := do
  let (chomping, indentation, cursor) := match chomping? cursor with
    | some chomping => match indentation? cursor.step with
      | some n => (chomping, some n, cursor.forward 2)
      | none => (chomping, none, cursor.step)
    | none => match indentation? cursor with
      | some n => match chomping? cursor.step with
        | some chomping => (chomping, some n, cursor.forward 2)
        | none => (.clip, some n, cursor.step)
      | none => (.clip, none, cursor)
  if indentation == some 0 || !Cursor.isSpaceOrEnd cursor.peek then .error .malformed
  else return (chomping, indentation, ← cursor.endLine)

/-- The breaks of empty lines in front of a block, and the deepest column of their spaces. -/
def leadingBreaks : (bound : Nat) → (deepest : Nat) → Cursor → List Char × Nat × Cursor
  | 0, deepest, cursor => ([], deepest, cursor)
  | bound + 1, deepest, cursor =>
      if cursor.isAt ' ' then
        let cursor := cursor.step
        leadingBreaks bound (max deepest cursor.column) cursor
      else if cursor.peek.any isBreak then
        let (text, cursor) := cursor.lineBreak
        let (others, deepest, cursor) := leadingBreaks bound deepest cursor
        (text ++ others, deepest, cursor)
      else ([], deepest, cursor)

/-- Go over spaces up to a column. -/
def skipIndent (indent : Nat) (cursor : Cursor) : Cursor :=
  cursor.forward (min (cursor.rest.takeWhile (· == ' ')).length (indent - cursor.column))

/-- The breaks of empty lines in a block. -/
def blockBreaks (indent : Nat) : (bound : Nat) → Cursor → List Char × Cursor
  | 0, cursor => ([], cursor)
  | bound + 1, cursor =>
      let cursor := skipIndent indent cursor
      if cursor.peek.any isBreak then
        let (text, cursor) := cursor.lineBreak
        let (others, cursor) := blockBreaks indent bound cursor
        (text ++ others, cursor)
      else ([], cursor)

/-- Does a line of a block begin here? -/
def isBlockLine (indent : Nat) (cursor : Cursor) : Bool :=
  cursor.column == indent && cursor.peek.isSome

/-- The lines of a block that begins here, up to the last line's text; then the last break and the
breaks of empty lines behind it. -/
def blockLines (folded : Bool) (indent : Nat) :
    (bound : Nat) → Cursor → List Char × List Char × List Char × Cursor
  | 0, cursor => ([], [], [], cursor)
  | bound + 1, cursor =>
      let line := cursor.rest.takeWhile (!isBreak ·)
      let startsFlush := !cursor.peek.any isSpace
      let (first, cursor) := (cursor.forward line.length).lineBreak
      let (others, cursor) := blockBreaks indent (cursor.rest.length + 1) cursor
      if isBlockLine indent cursor then
        let joint :=
          if folded && first == ['\n'] && startsFlush && !cursor.peek.any isSpace then
            (if others.isEmpty then [' '] else [])
          else first
        let (text, first, last, cursor) := blockLines folded indent bound cursor
        (line ++ joint ++ others ++ text, first, last, cursor)
      else (line, first, others, cursor)

/-- A scalar as a block inside a collection that is indented to `outer`. -/
def blockScalar (folded : Bool) (outer : Int) (cursor : Cursor) :
    Except Trouble (List Char × Cursor) := do
  let (chomping, indentation, cursor) ← blockHeader cursor.step
  let least := (max (outer + 1) 1).toNat
  let bound := cursor.rest.length + 1
  let (indent, leading, cursor) := match indentation with
    | none =>
        let (leading, deepest, cursor) := leadingBreaks bound 0 cursor
        (max least deepest, leading, cursor)
    | some n =>
        let indent := least + n - 1
        let (leading, cursor) := blockBreaks indent bound cursor
        (indent, leading, cursor)
  let (text, first, last, cursor) :=
    if isBlockLine indent cursor then
      let (text, first, last, cursor) := blockLines folded indent bound cursor
      (leading ++ text, first, last, cursor)
    else ([], [], leading, cursor)
  return (match chomping with
    | .strip => text
    | .clip => text ++ first
    | .keep => text ++ first ++ last, cursor)

end AccessRules.Yaml
