import AccessRules.Text.Blank

/-!
# Files of variables

A file of variables assigns values to names, one a line: `NAME=value`. A name or a value may be
quoted, and a quoted value may go over several lines; `export` may stand in front of a name; a
number sign begins a comment. A line that cannot be read is passed over. A value may refer to
variables: `${NAME}`, or `${NAME:-default}`.

* `EnvFile.parse` — the assignments of a file;
* `EnvFile.evaluate` — the variables that they set, with all references resolved.
-/

namespace AccessRules

/-- Variables with their values, in order. A variable may be named without a value. -/
abbrev Variables := List (String × Option String)

namespace Variables

/-- Set a variable: in its place when it is there, at the end otherwise. -/
def assign (name : String) (value : Option String) : Variables → Variables
  | [] => [(name, value)]
  | (other, old) :: rest =>
      if other == name then (name, value) :: rest else (other, old) :: assign name value rest

/-- The value of an assigned variable is the one that was assigned last. -/
theorem lookup_assign (name : String) (value : Option String) (entries : Variables) :
    (assign name value entries).lookup name = some value := by
  induction entries with
  | nil => simp [assign]
  | cons entry rest ih =>
    obtain ⟨other, old⟩ := entry
    by_cases h : other = name
    · subst h
      simp [assign]
    · have h' : (name == other) = false := by simpa using fun e => h e.symm
      simp [assign, h, List.lookup_cons, h', ih]

end Variables

namespace EnvFile

open AccessRules.Text

/-- Is the character a blank inside a line? -/
def isInlineBlank (c : Char) : Bool := isBlank c && c != '\n'

/-- A line of a file: the name that it assigns to, if any, and the value, if any. -/
structure Line where
  name : Option String
  value : Option String
  deriving DecidableEq, Repr

/-- A name and what follows it, or where reading had to stop. A name stands in single quotes, or
goes up to a blank, an equals sign or a number sign. A comment has no name. -/
def name (text : List Char) : Except (List Char) (Option String × List Char) :=
  match text with
  | '#' :: _ => .ok (none, text)
  | '\'' :: rest =>
      let chars := rest.takeWhile (· != '\'')
      if chars.isEmpty || chars.length == rest.length then .error text
      else .ok (some (String.ofList chars), rest.drop (chars.length + 1))
  | text =>
      let chars := text.takeWhile fun c => c != '=' && c != '#' && !isBlank c
      if chars.isEmpty then .error text
      else .ok (some (String.ofList chars), text.drop chars.length)

/-- The text up to the closing quote, and what follows it. A quote behind a backslash does not
close, unless no other one does. -/
def quotedBody? (quote : Char) : List Char → Option (List Char × List Char)
  | [] => none
  | '\\' :: c :: rest =>
      if c == quote then
        match quotedBody? quote rest with
        | some (body, behind) => some ('\\' :: c :: body, behind)
        | none => some (['\\'], rest)
      else (quotedBody? quote (c :: rest)).map fun (body, behind) => ('\\' :: body, behind)
  | c :: rest =>
      if c == quote then some ([], rest)
      else (quotedBody? quote rest).map fun (body, behind) => (c :: body, behind)

/-- The escapes between double quotes. -/
def doubleEscapes : List (Char × Char) :=
  [('\\', '\\'), ('\'', '\''), ('"', '"'), ('a', '\x07'), ('b', '\x08'), ('f', '\x0c'),
   ('n', '\n'), ('r', '\r'), ('t', '\t'), ('v', '\x0b')]

/-- The escapes between single quotes. -/
def singleEscapes : List (Char × Char) := [('\\', '\\'), ('\'', '\'')]

/-- A text with its escapes replaced by what they stand for. -/
def unescape (escapes : List (Char × Char)) : List Char → List Char
  | '\\' :: c :: rest => match escapes.lookup c with
    | some plain => plain :: unescape escapes rest
    | none => '\\' :: unescape escapes (c :: rest)
  | c :: rest => c :: unescape escapes rest
  | [] => []

/-- A text up to a comment, which begins at a number sign behind a blank. -/
def beforeComment (behindBlank : Bool) : List Char → List Char
  | [] => []
  | c :: rest => if c == '#' && behindBlank then [] else c :: beforeComment (isBlank c) rest

/-- A text without the blanks at its end. -/
def trimEnd (text : List Char) : List Char := (text.reverse.dropWhile isBlank).reverse

/-- A value behind its equals sign. -/
def value (text : List Char) : Except (List Char) (String × List Char) :=
  let quoted (quote : Char) (escapes : List (Char × Char)) (rest : List Char) :
      Except (List Char) (String × List Char) :=
    match quotedBody? quote rest with
    | some (body, behind) => .ok (String.ofList (unescape escapes body), behind)
    | none => .error text
  match text with
  | '\'' :: rest => quoted '\'' singleEscapes rest
  | '"' :: rest => quoted '"' doubleEscapes rest
  | text =>
      let line := text.takeWhile (· != '\n')
      .ok (String.ofList (trimEnd (beforeComment false line)), text.drop line.length)

/-- The text behind `export` and blanks, if they stand at the front. -/
def skipExport (text : List Char) : List Char :=
  let word := "export".toList
  let rest := text.drop word.length
  if word.isPrefixOf text && rest.head?.any isInlineBlank then rest.dropWhile isInlineBlank
  else text

/-- What follows blanks, a comment and the end of the line. -/
def endOfLine (text : List Char) : Except (List Char) (List Char) :=
  let rest := match text.dropWhile isInlineBlank with
    | '#' :: rest => rest.dropWhile (· != '\n')
    | rest => rest
  match rest with
  | [] => .ok []
  | '\n' :: rest => .ok rest
  | _ => .error text

/-- A line, from its first character that is not blank on. -/
def line (text : List Char) : Except (List Char) (Line × List Char) := do
  let (name, rest) ← name (skipExport text)
  let rest := rest.dropWhile isInlineBlank
  let (value, rest) ← match rest with
    | '=' :: rest => do
        let (value, rest) ← value (rest.dropWhile isInlineBlank)
        pure (some value, rest)
    | rest => pure (none, rest)
  return (⟨name, value⟩, ← endOfLine rest)

/-- The lines of a text that can be read. -/
def lines : (bound : Nat) → List Char → List Line
  | 0, _ => []
  | bound + 1, text => match text.dropWhile isBlank with
    | [] => []
    | text => match line text with
      | .ok (found, rest) => found :: lines bound rest
      | .error stop => lines bound ((stop.dropWhile (· != '\n')).drop 1)

/-- The assignments of a file, whose line breaks are line feeds. -/
def parse (text : List Char) : Variables :=
  (lines (text.length + 1) text).filterMap fun line => line.name.map fun name => (name, line.value)

/-- A reference at the front of a text, behind its dollar sign and brace: the name, the default,
and what follows. -/
def reference? (text : List Char) : Option (String × String × List Char) :=
  let name := text.takeWhile fun c => c != '\x7d' && c != ':'
  match text.drop name.length with
  | '\x7d' :: rest => some (String.ofList name, "", rest)
  | ':' :: '-' :: rest =>
      let default := rest.takeWhile (· != '\x7d')
      match rest.drop default.length with
      | '\x7d' :: rest => some (String.ofList name, String.ofList default, rest)
      | _ => none
  | _ => none

/-- A value with its references resolved. `find?` gives the value of a variable, which may have
none. -/
def resolve (find? : String → Option (Option String)) : (bound : Nat) → List Char → List Char
  | 0, text => text
  | _, [] => []
  | bound + 1, '$' :: '\x7b' :: rest => match reference? rest with
    | some (name, default, rest) =>
        (((find? name).getD default).getD "").toList ++ resolve find? bound rest
    | none => '$' :: resolve find? bound ('\x7b' :: rest)
  | bound + 1, c :: rest => c :: resolve find? bound rest

/-- The variables that a file sets. A reference is to an earlier variable of the file, or else to
the surroundings. -/
def evaluate (surroundings : List (String × String)) (text : List Char) : Variables :=
  (parse text).foldl (fun earlier (name, value) =>
    let find? (name : String) : Option (Option String) :=
      (earlier.lookup name).orElse fun _ => (surroundings.lookup name).map some
    earlier.assign name
      (value.map fun value =>
        String.ofList (resolve find? (value.length + 1) value.toList))) []

end EnvFile

end AccessRules
