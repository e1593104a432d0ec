import AccessRules.Fault

/-!
# Positions in a YAML text

The characters of YAML texts, and a cursor that goes through a text and knows its line and column.
Line breaks are line feeds, next lines, and line and paragraph separators; carriage returns have
been turned into line feeds before.
-/

namespace AccessRules.Yaml

/-- Why a text is not read: it is no YAML text of a single document, or one of its values is not
right, or it is not followed here. What is not followed are halves of characters, aliases whose
nodes may have changed or are not complete, and merges that are never done; a text may be well
formed in spite of them. -/
inductive Trouble where
  | malformed
  | fault (fault : Fault)
  | beyond
  deriving DecidableEq, Repr

/-- Is the character a line break? -/
def isBreak (c : Char) : Bool :=
  c == '\n' || c == '\x85' || c == '\u2028' || c == '\u2029'

/-- Is the character a blank inside a line? -/
def isSpace (c : Char) : Bool := c == ' ' || c == '\t'

/-- The mark of byte order. -/
def byteOrderMark : Char := '\uFEFF'

/-- May the character stand in a YAML text? -/
def isAllowed (c : Char) : Bool :=
  c == '\t' || c == '\n' || c == '\r' || (0x20 ≤ c.toNat && c.toNat ≤ 0x7E) || c == '\x85' ||
    (0xA0 ≤ c.toNat && c.toNat ≤ 0xD7FF) || (0xE000 ≤ c.toNat && c.toNat ≤ 0xFFFD) ||
    0x10000 ≤ c.toNat

/-- A position in a text: what is left of it, and how far it is from the beginning. -/
structure Cursor where
  rest : List Char
  index : Nat
  line : Nat
  column : Nat
  deriving DecidableEq, Repr

namespace Cursor

/-- The beginning of a text. -/
def start (text : List Char) : Cursor := ⟨text, 0, 0, 0⟩

/-- Go over one character. The mark of byte order takes no column. -/
def step (cursor : Cursor) : Cursor :=
  match cursor.rest with
  | [] => cursor
  | c :: rest =>
      if isBreak c then ⟨rest, cursor.index + 1, cursor.line + 1, 0⟩
      else if c == byteOrderMark then { cursor with rest := rest, index := cursor.index + 1 }
      else { cursor with rest := rest, index := cursor.index + 1, column := cursor.column + 1 }

/-- Go over some characters. -/
def forward (cursor : Cursor) : Nat → Cursor
  | 0 => cursor
  | n + 1 => cursor.step.forward n

@[simp] theorem step_rest (cursor : Cursor) : cursor.step.rest = cursor.rest.tail := by
  unfold step
  split
  · simp [*]
  · split
    · simp [*]
    · split <;> simp [*]

theorem step_index {cursor : Cursor} (more : cursor.rest ≠ []) :
    cursor.step.index = cursor.index + 1 := by
  unfold step
  split
  · contradiction
  · split
    · rfl
    · split <;> rfl

theorem step_line {cursor : Cursor} (inLine : ∀ c ∈ cursor.rest.head?, isBreak c = false) :
    cursor.step.line = cursor.line := by
  unfold step
  split
  · rfl
  · rename_i c rest same
    have goesOn := inLine c (by simp [same])
    simp only [goesOn, Bool.false_eq_true, if_false]
    split <;> rfl

@[simp] theorem forward_rest (cursor : Cursor) (n : Nat) :
    (cursor.forward n).rest = cursor.rest.drop n := by
  induction n generalizing cursor with
  | zero => rfl
  | succ n ih => rw [forward, ih, step_rest, List.drop_tail]

theorem forward_add (cursor : Cursor) (m n : Nat) :
    cursor.forward (m + n) = (cursor.forward m).forward n := by
  induction m generalizing cursor with
  | zero => rw [Nat.zero_add, forward]
  | succ m ih => rw [Nat.succ_add, forward, ih, forward]

theorem forward_index {cursor : Cursor} {n : Nat} (within : n ≤ cursor.rest.length) :
    (cursor.forward n).index = cursor.index + n := by
  induction n generalizing cursor with
  | zero => rfl
  | succ n ih =>
      have more : cursor.rest ≠ [] := List.ne_nil_of_length_pos (by omega)
      rw [forward, ih (by simp; omega), step_index more]
      omega

/-- The line stays the same as long as no break is passed. -/
theorem forward_line {cursor : Cursor} {n : Nat}
    (inLine : ∀ c ∈ cursor.rest.take n, isBreak c = false) :
    (cursor.forward n).line = cursor.line := by
  induction n generalizing cursor with
  | zero => rfl
  | succ n ih =>
      cases same : cursor.rest with
      | nil => rw [forward, ih (by simp [same]), step_line (by simp [same])]
      | cons c rest =>
          rw [same, List.take_succ_cons, List.forall_mem_cons] at inLine
          rw [forward, ih (by simpa [same] using inLine.2),
            step_line (by simpa [same] using inLine.1)]

/-- Go on while `skip` holds. -/
def skipWhile (skip : Char → Bool) (cursor : Cursor) : Cursor :=
  cursor.forward (cursor.rest.takeWhile skip).length

/-- The next character. -/
def peek (cursor : Cursor) : Option Char := cursor.rest.head?

/-- The character behind the next `n`. -/
def peekAt (cursor : Cursor) (n : Nat) : Option Char := cursor.rest[n]?

/-- Is the next character the given one? -/
def isAt (cursor : Cursor) (c : Char) : Bool := cursor.peek == some c

/-- Is it the end of the text, or does `p` hold of the character? -/
def endOr (p : Char → Bool) (c : Option Char) : Bool := c.all p

/-- Is the character a blank or a break, or is it the end? -/
def isGap (c : Option Char) : Bool := endOr (fun c => isSpace c || isBreak c) c

/-- Is the character a plain space or a break, or is it the end? -/
def isSpaceOrEnd (c : Option Char) : Bool := endOr (fun c => c == ' ' || isBreak c) c

/-- Is the character a break, or is it the end? -/
def isLineEnd (c : Option Char) : Bool := endOr isBreak c

/-- Do a document's three marks stand here, followed by a gap? -/
def isMarker (mark : Char) (cursor : Cursor) : Bool :=
  cursor.rest.take 3 == [mark, mark, mark] && isGap (cursor.peekAt 3)

/-- Does a document begin or end here? -/
def isSeparator (cursor : Cursor) : Bool := cursor.isMarker '-' || cursor.isMarker '.'

/-- Go over spaces. -/
def skipSpaces (cursor : Cursor) : Cursor := cursor.skipWhile (· == ' ')

/-- Go over a comment, if one begins here. -/
def skipComment (cursor : Cursor) : Cursor :=
  if cursor.isAt '#' then cursor.skipWhile (!isBreak ·) else cursor

/-- The text of the break here, and the position behind it. Separators stand for themselves, every
other break for a line feed. -/
def lineBreak (cursor : Cursor) : List Char × Cursor :=
  match cursor.peek with
  | some c =>
      if c == '\u2028' || c == '\u2029' then ([c], cursor.step)
      else if isBreak c then (['\n'], cursor.step)
      else ([], cursor)
  | none => ([], cursor)

/-- Go over spaces and a comment up to the end of the line, and over its break. -/
def endLine (cursor : Cursor) : Except Trouble Cursor :=
  let cursor := cursor.skipSpaces.skipComment
  if isLineEnd cursor.peek then .ok cursor.lineBreak.2 else .error .malformed

end Cursor

end AccessRules.Yaml
