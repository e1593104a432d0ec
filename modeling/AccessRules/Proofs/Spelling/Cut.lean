import AccessRules.Proofs.Spelling.Kind
import AccessRules.Proofs.Spelling.Quoted
import AccessRules.Text.Breaks

/-!
# YAML cuts spellings into tokens

A spelling is a collection in brackets, or a scalar. So no key has to begin anywhere (`Calm`), and
every token is cut in the same way: over the blanks in front of it (`past`), and then by its first
character. A lexer is `Ready` for a text when at most blanks are in front of it.

* `Cuts` — the tokens that are cut on the way from one lexer to another;
* `Ready.opens`, `Ready.closes`, `Ready.comma`, `Ready.text`, `Ready.name`, `Ready.word` — one token
  more, and the lexer is ready for what follows.
-/

namespace AccessRules.Yaml.Lexer

open Spelling
open AccessRules.Number (isPlainDigit)

/-- The lexer is inside so many brackets, and no key has to begin in them. -/
structure Calm (depth : Nat) (lexer : Lexer) : Prop where
  indents : lexer.indents = []
  optional : ∀ place ∈ lexer.place :: lexer.outer, place.all (!·.required) = true
  depth : lexer.outer.length = depth

/-- Only blanks stand in front of the text. -/
structure Ready (depth : Nat) (text : List Char) (lexer : Lexer) : Prop
    extends Calm depth lexer where
  here : ∃ gap, Blank gap ∧ lexer.cursor.rest = gap ++ Text.unifyBreaks text

/-- The characters that tokens of spellings begin with. -/
def tokenAlphabet : List Char := startAlphabet ++ "]\x7d:,".toList

/-- A token follows, or it is the end. -/
def Begins (rest : List Char) : Prop := ∀ c ∈ rest.head?, c ∈ tokenAlphabet

/-- The lexer behind the blanks in front of a token. -/
def past (gap : List Char) (lexer : Lexer) : Lexer :=
  let cursor := lexer.cursor.forward gap.length
  let fresh := fun place : Option KeyPlace => place.filter (!KeyPlace.isStale cursor ·)
  { lexer with
    cursor := cursor
    allowsKey := lexer.allowsKey || (!lexer.inFlow && gap.contains '\n')
    place := fresh lexer.place
    outer := lexer.outer.map fresh }

variable {depth : Nat} {lexer : Lexer} {gap rest : List Char}

/-! ### Blanks -/

theorem Begins.solid (begins : Begins rest) : Solid rest := by
  have marks : ∀ c ∈ tokenAlphabet, c ≠ ' ' ∧ isBreak c = false :=
    List.all_iff_forall_prop.1 (by decide)
  exact fun c among => marks c (begins c among)

theorem Begins.isAt {cursor : Cursor} (begins : Begins cursor.rest) {c : Char}
    (other : c ∉ tokenAlphabet) : cursor.isAt c = false := by
  rw [Cursor.isAt, Cursor.peek, beq_eq_false_iff_ne]
  exact fun same => other (begins c same)

theorem skipSpaces_eq_self {cursor : Cursor} (other : ∀ c ∈ cursor.rest.head?, c ≠ ' ') :
    cursor.skipSpaces = cursor := by
  have none : cursor.rest.takeWhile (· == ' ') = [] := by
    simpa using takeWhile_spaces 0 other
  rw [Cursor.skipSpaces, Cursor.skipWhile, none]
  rfl

theorem skipSpaces_step {cursor : Cursor} (here : cursor.rest = ' ' :: rest) :
    cursor.skipSpaces = cursor.step.skipSpaces := by
  have run : cursor.rest.takeWhile (· == ' ') =
      ' ' :: cursor.step.rest.takeWhile (· == ' ') := by
    rw [Cursor.step_rest, here]
    rfl
  rw [Cursor.skipSpaces, Cursor.skipWhile, run, List.length_cons, Cursor.forward]
  rfl

/-- Going over blanks leads behind them, one blank after another. -/
theorem skipGap_eq (blank : Blank gap) (begins : Begins rest)
    (here : lexer.cursor.rest = gap ++ rest) {bound : Nat} (enough : gap.length < bound) :
    skipGap bound lexer = { lexer with
      cursor := lexer.cursor.forward gap.length
      allowsKey := lexer.allowsKey || (!lexer.inFlow && gap.contains '\n') } := by
  induction gap generalizing lexer bound with
  | nil =>
      obtain ⟨bound, rfl⟩ := Nat.exists_eq_succ_of_ne_zero (Nat.ne_of_gt enough)
      rw [List.nil_append] at here
      have begins : Begins lexer.cursor.rest := here ▸ begins
      have stays := skipSpaces_eq_self fun c among => (begins.solid c among).1
      have noComment := begins.isAt (c := '#') (by decide)
      have noBreak := begins.solid.peek.2
      simp [skipGap, stays, Cursor.skipComment, noComment, noBreak, Cursor.forward]
  | cons c gap ih =>
      obtain ⟨bound, rfl⟩ := Nat.exists_eq_succ_of_ne_zero (Nat.ne_of_gt (Nat.zero_lt_of_lt enough))
      rw [List.length_cons] at enough
      obtain ⟨first, others⟩ := List.forall_mem_cons.1 blank
      have behind : lexer.cursor.step.rest = gap ++ rest := by
        rw [Cursor.step_rest, here]
        rfl
      obtain rfl | rfl := first
      · have stepped : skipGap (bound + 1) lexer =
            skipGap (bound + 1) { lexer with cursor := lexer.cursor.step } := by
          simp only [skipGap, skipSpaces_step here]
          rfl
        rw [stepped, ih others behind (by omega)]
        simp [Cursor.forward, inFlow]
      · have stays : lexer.cursor.skipSpaces = lexer.cursor := by
          apply skipSpaces_eq_self
          rw [here]
          rintro _ ⟨⟩
          decide
        have peeked : lexer.cursor.peek = some '\n' := by
          rw [Cursor.peek, here]
          rfl
        have stepped : skipGap (bound + 1) lexer = skipGap bound { lexer with
            cursor := lexer.cursor.step
            allowsKey := lexer.allowsKey || !lexer.inFlow } := by
          simp [skipGap, stays, Cursor.skipComment, Cursor.isAt, peeked, isBreak, Cursor.lineBreak]
        rw [stepped, ih others behind (by omega)]
        cases allows : lexer.allowsKey <;> cases flow : lexer.inFlow <;>
          simp_all [Cursor.forward, inFlow]

/-! ### Calm lexers -/

theorem Calm.place_optional (calm : Calm depth lexer) :
    lexer.place.any (·.required) = false := by
  have optional := calm.optional lexer.place List.mem_cons_self
  cases same : lexer.place with
  | none => rfl
  | some place => simpa [same] using optional

/-- A lexer stays calm when another place is kept for the innermost collection. -/
theorem Calm.keeping {next : Lexer} (calm : Calm depth lexer)
    (indents : next.indents = lexer.indents) (outer : next.outer = lexer.outer)
    (optional : next.place.all (!·.required) = true) : Calm depth next := by
  refine ⟨indents.trans calm.indents, List.forall_mem_cons.2 ⟨optional, ?_⟩, ?_⟩
  · rw [outer]
    exact fun place among => calm.optional place (List.mem_cons_of_mem _ among)
  · rw [outer, calm.depth]

theorem Calm.dropKey (calm : Calm depth lexer) :
    lexer.dropKey = .ok { lexer with place := none } := by
  rw [Lexer.dropKey, calm.place_optional, if_neg Bool.false_ne_true]

/-- The position is kept as a place of a key if one may begin. No key has to begin there. -/
theorem Calm.keepKey (calm : Calm depth lexer) :
    ∃ place, lexer.keepKey = .ok { lexer with place := place } ∧
      place.all (!·.required) = true ∧
      (lexer.allowsKey = true → place = some ⟨lexer.tokens.length, false, lexer.cursor.index,
        lexer.cursor.line, lexer.cursor.column⟩) := by
  have bottom : lexer.indent = -1 := by rw [indent, calm.indents]
  have outside : (lexer.indent == (lexer.cursor.column : Int)) = false := by
    rw [bottom, beq_eq_false_iff_ne]
    omega
  by_cases allows : lexer.allowsKey = true
  · refine ⟨_, ?_, rfl, fun _ => rfl⟩
    simp [Lexer.keepKey, allows, calm.dropKey, outside, pure, Except.pure, bind, Except.bind]
  · exact ⟨lexer.place, if_neg allows, calm.optional _ List.mem_cons_self,
      fun holds => absurd holds allows⟩

theorem Calm.unwind (calm : Calm depth lexer) (column : Int) : lexer.unwind column = lexer := by
  have none := calm.indents
  cases lexer
  subst none
  simp [Lexer.unwind]

theorem Calm.past (calm : Calm depth lexer) (gap : List Char) : Calm depth (lexer.past gap) := by
  refine ⟨calm.indents, ?_, by simpa [Lexer.past] using calm.depth⟩
  intro place among
  obtain ⟨kept, there, rfl⟩ : ∃ kept ∈ lexer.place :: lexer.outer,
      place = kept.filter (!KeyPlace.isStale (lexer.cursor.forward gap.length) ·) := by
    obtain rfl | among := List.mem_cons.1 among
    · exact ⟨lexer.place, List.mem_cons_self, rfl⟩
    · obtain ⟨kept, there, rfl⟩ := List.mem_map.1 among
      exact ⟨kept, List.mem_cons_of_mem _ there, rfl⟩
  have optional := calm.optional kept there
  cases kept with
  | none => rfl
  | some place =>
      rw [Option.filter_some]
      split
      · exact optional
      · rfl

theorem Calm.dropStale (calm : Calm depth lexer) :
    lexer.dropStale = .ok { lexer with
      place := lexer.place.filter (!KeyPlace.isStale lexer.cursor ·)
      outer := lexer.outer.map fun place =>
        place.filter (!KeyPlace.isStale lexer.cursor ·) } := by
  rw [Lexer.dropStale, if_neg]
  rw [Bool.not_eq_true, List.any_eq_false]
  intro place among
  have optional := calm.optional place among
  cases place with
  | none => simp
  | some place =>
      have unneeded : place.required = false := by simpa using optional
      simp [unneeded]

/-- The way to a token leads over the blanks in front of it, and nothing else happens. -/
theorem Calm.toToken (calm : Calm depth lexer) (blank : Blank gap) (begins : Begins rest)
    (here : lexer.cursor.rest = gap ++ rest) : lexer.toToken = .ok (lexer.past gap) := by
  have noMark : lexer.cursor.isAt byteOrderMark = false := by
    rw [Cursor.isAt, Cursor.peek, beq_eq_false_iff_ne, here]
    cases gap with
    | nil => exact fun same => absurd (begins _ same) (by decide)
    | cons c gap =>
        intro same
        obtain rfl := Option.some.inj same
        obtain bad | bad := blank _ List.mem_cons_self <;> cases bad
  have enough : gap.length < lexer.cursor.rest.length + 1 := by
    rw [here, List.length_append]
    omega
  have calm' : Calm depth { lexer with
      cursor := lexer.cursor.forward gap.length
      allowsKey := lexer.allowsKey || (!lexer.inFlow && gap.contains '\n') } :=
    ⟨calm.indents, calm.optional, calm.depth⟩
  have skipped := skipGap_eq blank begins here enough
  have fresh := calm'.dropStale
  have still := (calm.past gap).unwind ((lexer.cursor.forward gap.length).column)
  simp only [Lexer.toToken, noMark, Bool.and_false, Bool.false_eq_true, if_false, skipped, fresh,
    bind, Except.bind, pure, Except.pure]
  exact congrArg Except.ok still

/-! ### Tokens -/

/-- The tokens are cut on the way from one lexer to another. -/
structure Cuts (lexer : Lexer) (tokens : List Token) (next : Lexer) : Prop where
  tokens_eq : next.tokens = tokens.reverse ++ lexer.tokens
  steps : ∃ count, count + next.cursor.rest.length ≤ lexer.cursor.rest.length ∧
    ∀ bound, run (count + bound) lexer = run bound next

theorem Cuts.trans {first last : List Token} {middle next : Lexer} (one : Cuts lexer first middle)
    (other : Cuts middle last next) : Cuts lexer (first ++ last) next := by
  obtain ⟨count, enough, run⟩ := one.steps
  obtain ⟨count', enough', run'⟩ := other.steps
  refine ⟨?_, count + count', by omega, fun bound => ?_⟩
  · rw [other.tokens_eq, one.tokens_eq, List.reverse_append, List.append_assoc]
  · rw [Nat.add_assoc, run, run']

/-- A token is cut by its first character. -/
theorem Calm.run_succ (calm : Calm depth lexer) (blank : Blank gap) {c : Char}
    (begins : c ∈ tokenAlphabet) (here : lexer.cursor.rest = gap ++ c :: rest) {next : Lexer}
    (cut : (lexer.past gap).token c = .ok next) (bound : Nat) :
    run (bound + 1) lexer = run bound next := by
  have begins : Begins (c :: rest) := by
    rintro _ ⟨⟩
    exact begins
  have peeked : (lexer.past gap).cursor.peek = some c := by
    rw [Cursor.peek, Lexer.past, Cursor.forward_rest, here, List.drop_left, List.head?_cons]
  rw [run.eq_def]
  simp only [calm.toToken blank begins here, peeked, cut]

theorem Calm.cuts (calm : Calm depth lexer) (blank : Blank gap) {c : Char}
    (begins : c ∈ tokenAlphabet) (here : lexer.cursor.rest = gap ++ c :: rest) {next : Lexer}
    (cut : (lexer.past gap).token c = .ok next) {token : Token}
    (added : next.tokens = token :: lexer.tokens)
    (shorter : next.cursor.rest.length < lexer.cursor.rest.length) : Cuts lexer [token] next :=
  ⟨added, 1, by omega, fun bound => by
    rw [Nat.add_comm, calm.run_succ blank begins here cut]⟩

/-- No document begins or ends at a character of its own. -/
theorem markers {c : Char} (here : lexer.cursor.rest = c :: rest) (other : c ≠ '-' ∧ c ≠ '.') :
    lexer.cursor.isMarker '-' = false ∧ lexer.cursor.isMarker '.' = false := by
  constructor
  · exact isMarker_eq_false (by simp [here, other.1])
  · exact isMarker_eq_false (by simp [here, other.2])

/-- The kinds of brackets: the opening one, the closing one, and their tokens. -/
inductive Bracket : Char → Char → Token → Token → Prop where
  | square : Bracket '[' ']' .flowSequenceStart .flowSequenceEnd
  | curly : Bracket '\x7b' '\x7d' .flowMappingStart .flowMappingEnd

variable {opening closing : Char} {start finish : Token}

theorem Bracket.token_opening (bracket : Bracket opening closing start finish)
    (here : lexer.cursor.rest = opening :: rest) :
    lexer.token opening = lexer.openBracket start := by
  cases bracket <;> simp [token, markers here]

theorem Bracket.token_closing (bracket : Bracket opening closing start finish)
    (here : lexer.cursor.rest = closing :: rest) :
    lexer.token closing = lexer.closeBracket finish := by
  cases bracket <;> simp [token, markers here]

theorem token_comma (here : lexer.cursor.rest = ',' :: rest) : lexer.token ',' = lexer.comma := by
  simp [token, markers here]

theorem token_colon (here : lexer.cursor.rest = ':' :: rest) (flow : lexer.inFlow = true) :
    lexer.token ':' = lexer.colon := by
  simp [token, markers here, flow]

theorem token_quote (here : lexer.cursor.rest = '"' :: rest) :
    lexer.token '"' = lexer.quoted true := by
  simp [token, markers here]

/-- A word or a number is cut as a plain scalar. -/
theorem token_plain {c : Char} {word : List Char} (here : lexer.cursor.rest = c :: (word ++ rest))
    (first : c ∈ "ntf0123456789".toList ∨
      c = '-' ∧ ∃ d others, word = d :: others ∧ isPlainDigit d = true) :
    lexer.token c = lexer.plain := by
  obtain letter | ⟨rfl, d, others, rfl, digit⟩ := first
  · have others : ∀ c ∈ "ntf0123456789".toList,
        (".%-[\x7b]\x7d,?:*&!|>'\"".toList.all fun mark => c != mark) = true :=
      List.all_iff_forall_prop.1 (by decide)
    have begins : ∀ c ∈ "ntf0123456789".toList,
        (!("-?:,[]\x7b\x7d#&*!|>'\"%@\x60".toList.contains c || isSpace c || isBreak c)) = true :=
      List.all_iff_forall_prop.1 (by decide)
    have plain : beginsPlain lexer.inFlow c (lexer.cursor.peekAt 1) = true := by
      rw [beginsPlain, begins c letter, Bool.true_or]
    have other (mark : Char) (among : mark ∈ ".%-[\x7b]\x7d,?:*&!|>'\"".toList) :
        (c == mark) = false := by
      simpa using List.all_eq_true.1 (others c letter) mark among
    have noStart : lexer.cursor.isMarker '-' = false :=
      isMarker_eq_false (by simpa [here] using other '-' (by decide))
    have noEnd : lexer.cursor.isMarker '.' = false :=
      isMarker_eq_false (by simpa [here] using other '.' (by decide))
    simp only [token, noStart, noEnd, other '%' (by decide), other '-' (by decide),
      other '[' (by decide), other '\x7b' (by decide), other ']' (by decide),
      other '\x7d' (by decide), other ',' (by decide), other '?' (by decide),
      other ':' (by decide), other '*' (by decide), other '&' (by decide), other '!' (by decide),
      other '|' (by decide), other '>' (by decide), other '\'' (by decide), other '"' (by decide),
      plain, Bool.and_false, Bool.false_and, Bool.false_eq_true, if_false, if_true]
  · have digits : ∀ c ∈ "0123456789".toList, c ≠ '-' ∧ (isSpace c || isBreak c) = false :=
    List.all_iff_forall_prop.1 (by decide)
    obtain ⟨noDash, solid⟩ := digits d (mem_digits digit)
    have noStart : lexer.cursor.isMarker '-' = false := by
      simp [Cursor.isMarker, here, noDash]
    have noEnd : lexer.cursor.isMarker '.' = false := isMarker_eq_false (by simp [here])
    have noGap : Cursor.isGap (lexer.cursor.peekAt 1) = false := by
      simpa [Cursor.isGap, Cursor.endOr, Cursor.peekAt, here] using solid
    have plain : beginsPlain lexer.inFlow '-' (lexer.cursor.peekAt 1) = true := by
      simp [beginsPlain, noGap]
    simp [token, noStart, noEnd, noGap, plain]

/-! ### One token more -/

/-- A lexer is ready for what follows the blanks that it is ready for. -/
theorem Ready.behind (gap : Gap) (ready : Ready depth (gap.chars ++ rest) lexer)
    (apart : rest.head? ≠ some '\n') : Ready depth rest lexer := by
  obtain ⟨front, blank, here⟩ := ready.here
  refine ⟨ready.toCalm, front ++ Text.unifyBreaks gap.chars, ?_, ?_⟩
  · intro c among
    obtain inFront | inGap := List.mem_append.1 among
    · exact blank c inFront
    · exact blank_unifyBreaks gap c inGap
  · rw [here, Text.unifyBreaks_append apart, List.append_assoc]

/-- The lexer goes over blanks to a token, and cuts it there. -/
theorem Ready.arrives {c : Char} (begins : c ∈ tokenAlphabet)
    (ready : Ready depth (c :: rest) lexer) :
    ∃ place, Calm depth place ∧ place.cursor.rest = c :: Text.unifyBreaks rest ∧
      place.tokens = lexer.tokens ∧ (0 < depth → place.allowsKey = lexer.allowsKey) ∧
      ∀ next token, place.token c = .ok next → next.tokens = token :: place.tokens →
        next.cursor.rest.length ≤ (Text.unifyBreaks rest).length → Cuts lexer [token] next := by
  obtain ⟨gap, blank, here⟩ := ready.here
  have noReturn : ∀ c ∈ tokenAlphabet, c ≠ '\r' := List.all_iff_forall_prop.1 (by decide)
  rw [Text.unifyBreaks_cons (noReturn c begins)] at here
  refine ⟨lexer.past gap, ready.toCalm.past gap, ?_, rfl, ?_, ?_⟩
  · rw [Lexer.past, Cursor.forward_rest, here, List.drop_left]
  · intro inside
    have flow : lexer.inFlow = true := by
      have length := ready.depth
      cases outer : lexer.outer with
      | nil => simp [outer] at length; omega
      | cons place others => simp [inFlow, outer]
    simp [Lexer.past, flow]
  · intro next token cut added shorter
    refine ready.toCalm.cuts blank begins here cut added ?_
    rw [here, List.length_append, List.length_cons]
    omega

theorem ready_of_rest {lexer : Lexer} (calm : Calm depth lexer)
    (here : lexer.cursor.rest = Text.unifyBreaks rest) : Ready depth rest lexer :=
  ⟨calm, [], by simp [Blank], here⟩

/-- Behind an opening bracket, a key may begin. -/
theorem Ready.opens (bracket : Bracket opening closing start finish)
    (ready : Ready depth (opening :: rest) lexer) :
    ∃ next, Cuts lexer [start] next ∧ Ready (depth + 1) rest next ∧ next.allowsKey = true := by
  obtain ⟨place, calm, here, -, -, cuts⟩ := ready.arrives (by cases bracket <;> decide)
  obtain ⟨key, kept, optional, -⟩ := calm.keepKey
  have cut := bracket.token_opening here
  rw [openBracket, kept] at cut
  refine ⟨_, cuts _ start cut rfl ?_, ready_of_rest ⟨calm.indents, ?_, ?_⟩ ?_, rfl⟩
  · simp [pushOver, push, allowKey, here]
  · simpa [pushOver, push, allowKey, optional] using
      fun place among => calm.optional place (List.mem_cons_of_mem _ among)
  · exact congrArg Nat.succ calm.depth
  · simp [pushOver, push, allowKey, here]

theorem Ready.closes (bracket : Bracket opening closing start finish)
    (ready : Ready (depth + 1) (closing :: rest) lexer) :
    ∃ next, Cuts lexer [finish] next ∧ Ready depth rest next := by
  obtain ⟨place, calm, here, -, -, cuts⟩ := ready.arrives (by cases bracket <;> decide)
  have cut := bracket.token_closing here
  obtain ⟨key, outer, shape⟩ : ∃ key outer, place.outer = key :: outer :=
    List.exists_cons_of_ne_nil (List.ne_nil_of_length_eq_add_one calm.depth)
  rw [closeBracket, calm.dropKey] at cut
  simp only [shape, bind, Except.bind, pure, Except.pure] at cut
  refine ⟨_, cuts _ finish cut rfl ?_, ready_of_rest ⟨calm.indents, ?_, ?_⟩ ?_⟩
  · simp [pushOver, push, allowKey, here]
  · intro place' among
    exact calm.optional place' (List.mem_cons_of_mem _ (shape ▸ among))
  · have length := calm.depth
    rw [shape, List.length_cons] at length
    exact Nat.succ.inj length
  · simp [pushOver, push, allowKey, here]

/-- Behind a comma, a key may begin. -/
theorem Ready.comma (ready : Ready depth (',' :: rest) lexer) :
    ∃ next, Cuts lexer [.flowEntry] next ∧ Ready depth rest next ∧ next.allowsKey = true := by
  obtain ⟨place, calm, here, -, -, cuts⟩ := ready.arrives (by decide)
  have calm' : Calm depth (place.allowKey true) := ⟨calm.indents, calm.optional, calm.depth⟩
  have cut := token_comma here
  rw [Lexer.comma, calm'.dropKey] at cut
  refine ⟨_, cuts _ .flowEntry cut rfl ?_, ready_of_rest (calm.keeping rfl rfl rfl) ?_, rfl⟩
  · simp [pushOver, push, allowKey, here]
  · simp [pushOver, push, allowKey, here]

theorem unifyBreaks_writeText (letters : List Letter) (rest : List Char) :
    Text.unifyBreaks (writeText letters rest) = writeText letters (Text.unifyBreaks rest) := by
  have noReturn : '\r' ∉ lettersChars letters := fun among => (mem_lettersChars among).2.2 rfl
  rw [writeText, Text.unifyBreaks_cons (by decide), Text.unifyBreaks_append_of_not_mem noReturn,
    Text.unifyBreaks_cons (by decide), writeText]

/-- A text is cut as one token. Where a key may begin, its place is kept. -/
theorem Ready.text {letters : List Letter} (ready : Ready depth (writeText letters rest) lexer) :
    ∃ next, Cuts lexer [.scalar (lettersText letters) false] next ∧ Calm depth next ∧
      next.cursor.rest = Text.unifyBreaks rest ∧
      (0 < depth → lexer.allowsKey = true → ∃ index line column,
        next.place = some ⟨lexer.tokens.length, false, index, line, column⟩ ∧
        next.cursor.index = index + ((lettersChars letters).length + 2) ∧
        next.cursor.line = line) := by
  obtain ⟨place, calm, here, tokens, allows, cuts⟩ := ready.arrives (by decide)
  obtain ⟨key, kept, optional, there⟩ := calm.keepKey
  have whole : place.cursor.rest = writeText letters (Text.unifyBreaks rest) := by
    rw [← unifyBreaks_writeText, writeText, Text.unifyBreaks_cons (by decide)]
    exact here
  have read := quotedScalar_writeText letters whole
  have front : place.cursor.rest =
      ('"' :: lettersChars letters ++ ['"']) ++ Text.unifyBreaks rest := by simp [whole, writeText]
  have length : ('"' :: lettersChars letters ++ ['"']).length =
      (lettersChars letters).length + 2 := by simp
  have behind : (place.cursor.forward ((lettersChars letters).length + 2)).rest =
      Text.unifyBreaks rest := by
    rw [Cursor.forward_rest, front, List.drop_left' length]
  have cut := token_quote here
  rw [quoted, keyed, kept] at cut
  simp only [allowKey, read, bind, Except.bind, pure, Except.pure] at cut
  refine ⟨_, cuts _ (.scalar (lettersText letters) false) cut rfl ?_,
    calm.keeping rfl rfl optional, behind, ?_⟩
  · have longer := congrArg List.length front
    rw [here, List.length_append, length, List.length_cons] at longer
    simp only [behind]
    omega
  · intro inside begins
    have within : (lettersChars letters).length + 2 ≤ place.cursor.rest.length := by
      rw [front, List.length_append, length]
      omega
    have inLine : ∀ c ∈ place.cursor.rest.take ((lettersChars letters).length + 2),
        isBreak c = false := by
      rw [front, List.take_left' length]
      intro c among
      obtain rfl | inText | rfl : c = '"' ∨ c ∈ lettersChars letters ∨ c = '"' := by
        simpa using among
      · decide
      · exact (mem_lettersChars inText).2.1
      · decide
    refine ⟨place.cursor.index, place.cursor.line, place.cursor.column, ?_, ?_, ?_⟩
    · rw [← tokens]
      exact there ((allows inside).trans begins)
    · exact Cursor.forward_index within
    · exact Cursor.forward_line inLine

/-- At a colon, the token of the key goes in front of the one token that has been cut since. -/
theorem colon_key {scalar : Token} {place : KeyPlace} {before : List Token}
    (flow : lexer.inFlow = true) (kept : lexer.place = some place)
    (tokens : lexer.tokens = scalar :: before) (count : place.before = before.length) :
    lexer.colon = .ok { lexer with
      cursor := lexer.cursor.forward 1
      allowsKey := false
      place := none
      tokens := .value :: scalar :: .key :: before } := by
  have behind : before.length + 1 - before.length = 1 := by omega
  rw [inFlow] at flow
  simp [colon, kept, insertKey, inFlow, tokens, count, behind, flow, pushOver, push, allowKey,
    pure, Except.pure]

/-- A name is cut as a key in front of its colon, since its place is still kept there: the colon
stands on the same line, and not too far behind. -/
theorem Ready.name {name : Name} (ready : Ready (depth + 1) (name.write rest) lexer)
    (allows : lexer.allowsKey = true) (apart : rest.head? ≠ some '\n') :
    ∃ next, Cuts lexer [.key, .scalar (lettersText name.letters) false, .value] next ∧
      Ready (depth + 1) rest next := by
  obtain ⟨middle, text, calm, here, key⟩ := ready.text
  obtain ⟨index, line, column, place, distance, sameLine⟩ := key (Nat.succ_pos depth) allows
  have noReturn : '\r' ∉ List.replicate name.spaces ' ' := fun among =>
    absurd (List.eq_of_mem_replicate among) (by decide)
  have blank : Blank (List.replicate name.spaces ' ') := fun c among =>
    Or.inl (List.eq_of_mem_replicate among)
  rw [Text.unifyBreaks_append_of_not_mem noReturn, Text.unifyBreaks_cons (by decide)] at here
  have length : (List.replicate name.spaces ' ').length = name.spaces := List.length_replicate
  have calm' := calm.past (List.replicate name.spaces ' ')
  have atColon : (middle.past (List.replicate name.spaces ' ')).cursor.rest =
      ':' :: Text.unifyBreaks (name.behind.chars ++ rest) := by
    rw [Lexer.past, Cursor.forward_rest, here, List.drop_left]
  have fresh : (middle.past (List.replicate name.spaces ' ')).place =
      some ⟨lexer.tokens.length, false, index, line, column⟩ := by
    have within : name.spaces ≤ middle.cursor.rest.length := by
      rw [here, List.length_append, length]
      omega
    have inLine : ∀ c ∈ middle.cursor.rest.take name.spaces, isBreak c = false := by
      rw [here, List.take_left' length]
      intro c among
      obtain rfl := List.eq_of_mem_replicate among
      rfl
    have near := name.short
    simp only [Lexer.past, place, length, Option.filter_some, KeyPlace.isStale,
      Cursor.forward_index within, Cursor.forward_line inLine, distance, sameLine]
    rw [if_pos]
    simp
    omega
  have flow : (middle.past (List.replicate name.spaces ' ')).inFlow = true := by
    obtain ⟨first, others, shape⟩ := List.exists_cons_of_ne_nil
      (List.ne_nil_of_length_eq_add_one calm'.depth)
    rw [inFlow, shape]
    rfl
  have tokens : (middle.past (List.replicate name.spaces ' ')).tokens =
      .scalar (lettersText name.letters) false :: lexer.tokens := text.tokens_eq
  have cut := (token_colon atColon flow).trans (colon_key flow fresh tokens rfl)
  have goesOn (bound : Nat) := calm.run_succ blank (by decide) here cut bound
  obtain ⟨count, enough, run⟩ := text.steps
  have shorter : (Text.unifyBreaks (name.behind.chars ++ rest)).length + 1 ≤
      middle.cursor.rest.length := by
    rw [here, List.length_append, List.length_cons]
    omega
  refine ⟨?next, ⟨?tokens, count + 1, ?shorter, ?goesOn⟩, ?ready⟩
  case goesOn =>
    intro bound
    rw [Nat.add_assoc, run, Nat.add_comm 1 bound]
    exact goesOn bound
  case tokens => rfl
  case shorter =>
    rw [Cursor.forward_rest, atColon, List.drop_one, List.tail_cons]
    omega
  case ready =>
    refine Ready.behind name.behind (ready_of_rest (calm'.keeping rfl rfl rfl) ?_) apart
    rw [Cursor.forward_rest, atColon, List.drop_one, List.tail_cons]

/-- A word, or a number. -/
structure IsWord (word : List Char) : Prop where
  plain : ∀ c ∈ word, c ∈ plainAlphabet
  begins : ∃ c others, word = c :: others ∧ (c ∈ "ntf0123456789".toList ∨
    c = '-' ∧ ∃ d digits, others = d :: digits ∧ isPlainDigit d = true)

/-- A plain scalar is cut together with the blanks behind it. -/
theorem Ready.word {word : List Char} {gap : Gap} (isWord : IsWord word)
    (ready : Ready depth (word ++ (gap.chars ++ rest)) lexer)
    (stops : Stops (decide (0 < depth)) rest) :
    ∃ next, Cuts lexer [.scalar (String.ofList word) true] next ∧ Ready depth rest next := by
  obtain ⟨c, others, rfl, begins⟩ := isWord.begins
  have token : c ∈ tokenAlphabet := by
    have letters : ∀ c ∈ '-' :: "ntf0123456789".toList, c ∈ tokenAlphabet :=
      List.all_iff_forall_prop.1 (by decide)
    obtain letter | ⟨rfl, -⟩ := begins
    · exact letters c (List.mem_cons_of_mem _ letter)
    · exact letters '-' List.mem_cons_self
  obtain ⟨place, calm, here, tokens, -, cuts⟩ := ready.arrives token
  obtain ⟨key, kept, optional, -⟩ := calm.keepKey
  have whole : place.cursor.rest =
      (c :: others) ++ (Text.unifyBreaks gap.chars ++ Text.unifyBreaks rest) := by
    have noReturn : ∀ c ∈ plainAlphabet, c ≠ '\r' := List.all_iff_forall_prop.1 (by decide)
    have none : '\r' ∉ others := fun among =>
      noReturn '\r' (isWord.plain '\r' (List.mem_cons_of_mem _ among)) rfl
    have split : Text.unifyBreaks (others ++ (gap.chars ++ rest)) =
        others ++ (Text.unifyBreaks gap.chars ++ Text.unifyBreaks rest) := by
      rw [Text.unifyBreaks_append_of_not_mem none, Text.unifyBreaks_append stops.apart]
    rw [here, List.cons_append, ← split]
    rfl
  have flow : place.inFlow = decide (0 < depth) := by
    rw [inFlow, ← calm.depth]
    cases place.outer <;> rfl
  obtain ⟨broke, read⟩ : ∃ broke, plainScalar (decide (0 < depth)) (place.indent + 1) place.cursor =
      (c :: others, broke,
        place.cursor.forward ((c :: others).length + (Text.unifyBreaks gap.chars).length)) :=
    plainScalar_word isWord.plain (List.cons_ne_nil c others) (blank_unifyBreaks gap)
      stops.unifyBreaks whole
  have behind : (place.cursor.forward ((c :: others).length +
      (Text.unifyBreaks gap.chars).length)).rest = Text.unifyBreaks rest := by
    rw [Cursor.forward_rest, whole, ← List.append_assoc, List.drop_left' (List.length_append)]
  have cut : place.token c = place.plain := token_plain whole begins
  have flow' : Lexer.inFlow { place with place := key } = decide (0 < depth) := flow
  have indent' : Lexer.indent { place with place := key } = place.indent := rfl
  rw [plain, kept] at cut
  simp only [flow', indent', read, bind, Except.bind, pure, Except.pure] at cut
  refine ⟨_, cuts _ (.scalar (String.ofList (c :: others)) true) cut rfl ?_,
    ready_of_rest (calm.keeping rfl rfl optional) behind⟩
  have longer := congrArg List.length whole
  rw [here, List.length_append, List.length_append, List.length_cons, List.length_cons] at longer
  simp only [behind]
  omega

end AccessRules.Yaml.Lexer
