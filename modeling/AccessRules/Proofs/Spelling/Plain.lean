import AccessRules.Proofs.Spelling.Number
import AccessRules.Yaml.Value

/-!
# YAML reads words and numbers

Words and numbers are plain scalars. Reading one goes on over the blanks behind it, in search of
another word, and finds none in front of a comma, a closing bracket or the end (`Stops`). What a
plain scalar stands for is told from its characters.
-/

namespace AccessRules.Yaml

open Spelling
open AccessRules.Number (isPlainDigit)

/-- Blanks as YAML sees them: every line end is a line feed. -/
def Blank (gap : List Char) : Prop := ∀ c ∈ gap, c = ' ' ∨ c = '\n'

/-- What follows is no blank. -/
def Solid (rest : List Char) : Prop := ∀ c ∈ rest.head?, c ≠ ' ' ∧ isBreak c = false

theorem Solid.peek {cursor : Cursor} (solid : Solid cursor.rest) :
    cursor.isAt ' ' = false ∧ cursor.peek.any isBreak = false := by
  cases here : cursor.rest with
  | nil => exact ⟨by simp [Cursor.isAt, Cursor.peek, here], by simp [Cursor.peek, here]⟩
  | cons c rest =>
      obtain ⟨noSpace, noBreak⟩ := solid c (by rw [here]; rfl)
      exact ⟨by simp [Cursor.isAt, Cursor.peek, here, noSpace],
        by simp [Cursor.peek, here, noBreak]⟩

/-- No word follows: it is the end, or inside brackets a comma or a closing bracket. -/
def Stops (inFlow : Bool) (rest : List Char) : Prop :=
  ∀ c ∈ rest.head?, inFlow = true ∧ c ∈ ",]\x7d".toList

/-- The characters of words and numbers. -/
def plainAlphabet : List Char := numeralAlphabet ++ "nultrefas".toList

/-! ### The text of a plain scalar -/

theorem plainWord_append (inFlow : Bool) {word : List Char} (plain : ∀ c ∈ word, c ∈ plainAlphabet)
    (rest : List Char) : plainWord inFlow (word ++ rest) = word ++ plainWord inFlow rest := by
  have goesOn : ∀ c ∈ plainAlphabet, isSpace c = false ∧ isBreak c = false ∧ c ≠ ':' ∧
      [',', '?', '[', ']', '\x7b', '\x7d'].contains c = false :=
    List.all_iff_forall_prop.1 (by decide)
  induction word with
  | nil => rfl
  | cons c word ih =>
      obtain ⟨first, others⟩ := List.forall_mem_cons.1 plain
      obtain ⟨solid, inLine, noColon, noMark⟩ := goesOn c first
      have more : endsPlain inFlow (c :: (word ++ rest)) = false := by
        simp only [endsPlain, solid, inLine, noMark, Bool.and_false, Bool.or_false]
        simp [noColon]
      rw [List.cons_append, plainWord, more, if_neg Bool.false_ne_true, ih others, List.cons_append]

theorem Stops.plainWord {inFlow : Bool} {rest : List Char} (stops : Stops inFlow rest) :
    plainWord inFlow rest = [] := by
  cases rest with
  | nil => rfl
  | cons c rest =>
      obtain ⟨rfl, mark⟩ := stops c rfl
      have ends : ∀ c ∈ ",]\x7d".toList, [',', '?', '[', ']', '\x7b', '\x7d'].contains c = true :=
        List.all_iff_forall_prop.1 (by decide)
      have here : endsPlain true (c :: rest) = true := by
        simp only [endsPlain, ends c mark, Bool.and_true, Bool.or_true]
      rw [Yaml.plainWord, here, if_pos rfl]

/-- Nothing that stops is a blank or the mark of a document. -/
theorem Stops.head {inFlow : Bool} {rest : List Char} (stops : Stops inFlow rest) :
    ∀ c ∈ rest.head?, c ≠ ' ' ∧ isBreak c = false ∧ c ≠ '-' ∧ c ≠ '.' := by
  have marks : ∀ c ∈ ",]\x7d".toList, c ≠ ' ' ∧ isBreak c = false ∧ c ≠ '-' ∧ c ≠ '.' :=
    List.all_iff_forall_prop.1 (by decide)
  exact fun c among => marks c (stops c among).2

theorem Stops.solid {inFlow : Bool} {rest : List Char} (stops : Stops inFlow rest) :
    Solid rest := fun c among => ⟨(stops.head c among).1, (stops.head c among).2.1⟩

/-- Blanks between tokens are blanks as YAML sees them. -/
theorem blank_unifyBreaks (gap : Gap) : Blank (Text.unifyBreaks gap.chars) := by
  intro c among
  obtain rfl | inside := Text.mem_of_mem_unifyBreaks among
  · exact Or.inr rfl
  · obtain rfl | rfl | rfl := gap.blank c inside
    · exact Or.inl rfl
    · exact Or.inr rfl
    · exact absurd among (Text.not_mem_unifyBreaks gap.chars)

theorem Stops.apart {inFlow : Bool} {rest : List Char} (stops : Stops inFlow rest) :
    rest.head? ≠ some '\n' :=
  fun same => absurd (stops '\n' same).2 (by decide)

theorem Stops.unifyBreaks {inFlow : Bool} {rest : List Char} (stops : Stops inFlow rest) :
    Stops inFlow (Text.unifyBreaks rest) := by
  cases rest with
  | nil => exact stops
  | cons c others =>
      have noReturn : ∀ c ∈ ",]\x7d".toList, c ≠ '\r' := List.all_iff_forall_prop.1 (by decide)
      rw [Text.unifyBreaks_cons (noReturn c (stops c rfl).2)]
      exact stops

theorem isMarker_eq_false {cursor : Cursor} {mark : Char} (other : cursor.rest.head? ≠ some mark) :
    cursor.isMarker mark = false := by
  have apart : (cursor.rest.take 3 == [mark, mark, mark]) = false := by
    rw [beq_eq_false_iff_ne]
    intro same
    apply other
    have heads := congrArg List.head? same
    rwa [List.head?_take, if_neg (by decide)] at heads
  rw [Cursor.isMarker, apart, Bool.false_and]

/-- No document begins or ends in front of blanks, or where a plain scalar stops. -/
theorem isSeparator_eq_false {cursor : Cursor} {inFlow : Bool} {gap rest : List Char}
    (here : cursor.rest = gap ++ rest) (blank : Blank gap) (stops : Stops inFlow rest) :
    cursor.isSeparator = false := by
  have other : ∀ c ∈ cursor.rest.head?, c ≠ '-' ∧ c ≠ '.' := by
    cases gap with
    | nil =>
        rw [here, List.nil_append]
        exact fun c among => (stops.head c among).2.2
    | cons c gap =>
        rw [here]
        rintro _ ⟨⟩
        obtain rfl | rfl := blank c List.mem_cons_self <;> decide
  rw [Cursor.isSeparator, isMarker_eq_false, isMarker_eq_false, Bool.or_self]
  · intro same
    exact (other '.' same).2 rfl
  · intro same
    exact (other '-' same).1 rfl

theorem plainBreaks_gap {inFlow : Bool} {gap rest : List Char} (blank : Blank gap)
    (stops : Stops inFlow rest) {cursor : Cursor} (here : cursor.rest = gap ++ rest) {bound : Nat}
    (enough : gap.length < bound) :
    ∃ others, plainBreaks bound cursor = (some others, cursor.forward gap.length) := by
  induction gap generalizing cursor bound with
  | nil =>
      obtain ⟨bound, rfl⟩ := Nat.exists_eq_succ_of_ne_zero (Nat.ne_of_gt enough)
      rw [List.nil_append] at here
      obtain ⟨noSpace, noBreak⟩ := (here ▸ stops.solid : Solid cursor.rest).peek
      exact ⟨[], by simp [plainBreaks, noSpace, noBreak, Cursor.forward]⟩
  | cons c gap ih =>
      obtain ⟨bound, rfl⟩ := Nat.exists_eq_succ_of_ne_zero (Nat.ne_of_gt (Nat.zero_lt_of_lt enough))
      rw [List.length_cons] at enough
      obtain ⟨first, others⟩ := List.forall_mem_cons.1 blank
      have here' : cursor.step.rest = gap ++ rest := by
        rw [Cursor.step_rest, here]
        rfl
      obtain ⟨later, read⟩ := ih others here' (show gap.length < bound by omega)
      obtain rfl | rfl := first
      · exact ⟨later, by simp [plainBreaks, Cursor.isAt, Cursor.peek, here, read, Cursor.forward]⟩
      · have noMark := isSeparator_eq_false here' others stops
        exact ⟨'\n' :: later, by
          simp [plainBreaks, Cursor.isAt, Cursor.peek, here, read, Cursor.forward,
            Cursor.lineBreak, isBreak, noMark]⟩

/-- Blanks are spaces, and then nothing or a line end. -/
theorem Blank.split {gap : List Char} (blank : Blank gap) :
    ∃ count more, gap = List.replicate count ' ' ++ more ∧ Blank more ∧
      (more = [] ∨ ∃ others, more = '\n' :: others) := by
  induction gap with
  | nil => exact ⟨0, [], rfl, blank, Or.inl rfl⟩
  | cons c gap ih =>
      obtain ⟨first, others⟩ := List.forall_mem_cons.1 blank
      obtain rfl | rfl := first
      · obtain ⟨count, more, same, blank', shape⟩ := ih others
        exact ⟨count + 1, more, by rw [same, List.replicate_succ, List.cons_append], blank', shape⟩
      · exact ⟨0, '\n' :: gap, rfl, blank, Or.inr ⟨gap, rfl⟩⟩

/-- The run of spaces in front of something else. -/
theorem takeWhile_spaces (count : Nat) {rest : List Char} (other : ∀ c ∈ rest.head?, c ≠ ' ') :
    (List.replicate count ' ' ++ rest).takeWhile (· == ' ') = List.replicate count ' ' := by
  rw [List.takeWhile_append_of_pos (by simp)]
  cases rest with
  | nil => simp
  | cons c rest => simp [other c rfl]

theorem plainSpaces_gap {inFlow : Bool} {gap rest : List Char} (blank : Blank gap)
    (stops : Stops inFlow rest) {cursor : Cursor} (here : cursor.rest = gap ++ rest) :
    ∃ spaces broke, plainSpaces cursor = (spaces, broke, cursor.forward gap.length) := by
  obtain ⟨count, more, rfl, blank', shape⟩ := blank.split
  rw [List.append_assoc] at here
  have other : ∀ c ∈ (more ++ rest).head?, c ≠ ' ' := by
    obtain rfl | ⟨others, rfl⟩ := shape
    · exact fun c among => (stops.solid c among).1
    · rintro _ ⟨⟩
      decide
  have run : cursor.rest.takeWhile (· == ' ') = List.replicate count ' ' := by
    rw [here, takeWhile_spaces count other]
  have behind : (cursor.forward count).rest = more ++ rest := by
    rw [Cursor.forward_rest, here, List.drop_left' List.length_replicate]
  obtain rfl | ⟨others, rfl⟩ := shape
  · have noBreak := (behind ▸ stops.solid : Solid (cursor.forward count).rest).peek.2
    exact ⟨List.replicate count ' ', false, by simp [plainSpaces, run, noBreak]⟩
  · have here' : (cursor.forward count).step.rest = others ++ rest := by
      rw [Cursor.step_rest, behind]
      rfl
    have blank'' : Blank others := (List.forall_mem_cons.1 blank').2
    have noMark := isSeparator_eq_false here' blank'' stops
    obtain ⟨text, read⟩ := plainBreaks_gap blank'' stops here'
      (show others.length < cursor.rest.length - (count + 1) + 1 by simp [here]; omega)
    refine ⟨fold ['\n'] text, true, ?_⟩
    have peeked : (cursor.forward count).peek = some '\n' := by
      rw [Cursor.peek, behind]
      rfl
    simp [plainSpaces, run, peeked, isBreak, Cursor.lineBreak, noMark, read, Cursor.forward_add,
      Cursor.forward]

/-- **A word is read as itself**, together with the blanks behind it. -/
theorem plainScalar_word {inFlow : Bool} {indent : Int} {word gap rest : List Char}
    (plain : ∀ c ∈ word, c ∈ plainAlphabet) (nonempty : word ≠ []) (blank : Blank gap)
    (stops : Stops inFlow rest) {cursor : Cursor} (here : cursor.rest = word ++ (gap ++ rest)) :
    ∃ broke, plainScalar inFlow indent cursor =
      (word, broke, cursor.forward (word.length + gap.length)) := by
  have first : plainWord inFlow cursor.rest = word := by
    have none : plainWord inFlow (gap ++ rest) = [] := by
      cases gap with
      | nil => exact stops.plainWord
      | cons c gap =>
          have ends : endsPlain inFlow (c :: (gap ++ rest)) = true := by
            obtain rfl | rfl := blank c List.mem_cons_self <;> simp [endsPlain, isSpace, isBreak]
          rw [List.cons_append, plainWord, ends, if_pos rfl]
    rw [here, plainWord_append inFlow plain, none, List.append_nil]
  have noComment : cursor.isAt '#' = false := by
    obtain ⟨c, others, rfl⟩ := List.exists_cons_of_ne_nil nonempty
    have other : ∀ c ∈ plainAlphabet, c ≠ '#' := List.all_iff_forall_prop.1 (by decide)
    simp [Cursor.isAt, Cursor.peek, here, other c (plain c List.mem_cons_self)]
  have behind : (cursor.forward word.length).rest = gap ++ rest := by
    rw [Cursor.forward_rest, here, List.drop_left]
  obtain ⟨spaces, broke, passed⟩ := plainSpaces_gap blank stops behind
  rw [← Cursor.forward_add] at passed
  -- Behind the blanks there is no other word, whether they are looked behind or not.
  have last : (cursor.forward (word.length + gap.length)).rest = rest := by
    rw [Cursor.forward_add, Cursor.forward_rest, behind, List.drop_left]
  have nothing (bound : Nat) : plainFrom inFlow indent bound spaces broke
      (cursor.forward (word.length + gap.length)) =
        ([], broke, cursor.forward (word.length + gap.length)) := by
    cases bound with
    | zero => rfl
    | succ bound =>
        simp only [plainFrom, last, stops.plainWord, List.isEmpty_nil, if_true, ite_self]
  refine ⟨broke, ?_⟩
  simp [plainScalar, plainFrom, noComment, first, nonempty, passed, nothing]

end AccessRules.Yaml
