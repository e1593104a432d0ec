import AccessRules.Proofs.Spelling.Cut

/-!
# The tokens of spellings

Brackets, commas, names and scalars each have their tokens, in the order of the text. A lexer that
is ready for a spelling cuts these tokens, and is ready for what follows then; the induction is on
the spelling, and the rest behind it is arbitrary.

* `Spelling.tokens` — the tokens of a spelling;
* `Token.ofText_write` — its text is cut into them, whatever blanks are around it.
-/

namespace AccessRules

namespace Spelling

open Yaml (Token)

/-- The tokens of a name and its colon. -/
def Name.tokens (name : Name) : List Token :=
  [.key, .scalar (lettersText name.letters) false, .value]

theorem Name.length_tokens (name : Name) : name.tokens.length = 3 := rfl

mutual

/-- The tokens of a document. -/
def tokens : Spelling → List Token
  | .null => [.scalar "null" true]
  | .truth value => [.scalar (if value then "true" else "false") true]
  | .number numeral => [.scalar (String.ofList numeral.chars) true]
  | .text letters => [.scalar (lettersText letters) false]
  | .emptyArray _ => [.flowSequenceStart] ++ [.flowSequenceEnd]
  | .array _ items => [.flowSequenceStart] ++ (items.tokens ++ [.flowSequenceEnd])
  | .emptyObject _ => [.flowMappingStart] ++ [.flowMappingEnd]
  | .object _ fields => [.flowMappingStart] ++ (fields.tokens ++ [.flowMappingEnd])

/-- The tokens of items. -/
def Items.tokens : Items → List Token
  | .last item _ => item.tokens
  | .more item _ _ rest => item.tokens ++ ([.flowEntry] ++ rest.tokens)

/-- The tokens of members. -/
def Fields.tokens : Fields → List Token
  | .last name item _ => name.tokens ++ item.tokens
  | .more name item _ _ rest => name.tokens ++ (item.tokens ++ ([.flowEntry] ++ rest.tokens))

end

/-- No line feed stands at the beginning of a document. -/
theorem write_apart (spelling : Spelling) (rest : List Char) :
    (spelling.write rest).head? ≠ some '\n' := by
  obtain ⟨c, others, same, first⟩ := spelling.write_eq_cons rest
  rw [same, List.head?_cons]
  rintro ⟨⟩
  exact absurd first (by decide)

theorem Items.write_apart (items : Items) (rest : List Char) :
    (items.write rest).head? ≠ some '\n' := by
  cases items <;> exact Spelling.write_apart _ _

theorem Fields.write_apart (fields : Fields) (rest : List Char) :
    (fields.write rest).head? ≠ some '\n' := by
  obtain ⟨others, same⟩ := fields.write_eq_cons rest
  rw [same, List.head?_cons]
  decide

end Spelling

namespace Yaml.Lexer

open Spelling

variable {depth : Nat} {lexer : Lexer} {rest : List Char}

theorem isWord_number (numeral : Numeral) : IsWord numeral.chars := by
  refine ⟨fun c among => List.mem_append_left _ (numeral.mem_alphabet among), ?_⟩
  obtain ⟨d, digits, body, digit⟩ := numeral.body_eq_cons
  cases negative : numeral.negative with
  | true => exact ⟨'-', numeral.body, by rw [Numeral.chars, negative]; rfl,
      Or.inr ⟨rfl, d, digits, body, digit⟩⟩
  | false => exact ⟨d, digits, by rw [Numeral.chars, negative, body]; rfl,
      Or.inl (List.mem_append_right "ntf".toList (mem_digits digit))⟩

theorem isWord_null : IsWord "null".toList :=
  ⟨List.all_iff_forall_prop.1 (by decide), 'n', "ull".toList, rfl, Or.inl (by decide)⟩

theorem isWord_truth (value : Bool) : IsWord (if value then "true" else "false").toList := by
  cases value with
  | true =>
      exact ⟨List.all_iff_forall_prop.1 (by decide), 't', "rue".toList, rfl, Or.inl (by decide)⟩
  | false =>
      exact ⟨List.all_iff_forall_prop.1 (by decide), 'f', "alse".toList, rfl, Or.inl (by decide)⟩

/-- What may stand behind a document inside brackets. -/
theorem stops_cons {c : Char} (mark : c ∈ ",]\x7d".toList) (rest : List Char) :
    Stops true (c :: rest) := by
  rintro _ ⟨⟩
  exact ⟨rfl, mark⟩

theorem inBrackets (stops : Stops true rest) : Stops (decide (0 < depth + 1)) rest := by
  rwa [decide_eq_true (Nat.succ_pos depth)]

/-- Two brackets with only blanks between them. -/
theorem Ready.empty {opening closing : Char} {start finish : Token} {inside gap : Gap}
    (bracket : Bracket opening closing start finish)
    (ready : Ready depth (opening :: (inside.chars ++ closing :: (gap.chars ++ rest))) lexer)
    (apart : rest.head? ≠ some '\n') :
    ∃ next, Cuts lexer ([start] ++ [finish]) next ∧ Ready depth rest next := by
  obtain ⟨inner, opened, ready, -⟩ := ready.opens bracket
  have solid : (closing :: (gap.chars ++ rest)).head? ≠ some '\n' := by
    rw [List.head?_cons]
    cases bracket <;> decide
  obtain ⟨next, closed, ready⟩ := (ready.behind inside solid).closes bracket
  exact ⟨next, opened.trans closed, ready.behind gap apart⟩

mutual

/-- **The tokens of a document are cut**, and what follows is still to be cut. -/
theorem Ready.document (spelling : Spelling) {depth : Nat} {lexer : Lexer} {gap : Gap}
    {rest : List Char} (ready : Ready depth (spelling.write (gap.chars ++ rest)) lexer)
    (stops : Stops (decide (0 < depth)) rest) :
    ∃ next, Cuts lexer spelling.tokens next ∧ Ready depth rest next := by
  cases spelling with
  | null => exact Ready.word isWord_null ready stops
  | truth value =>
      obtain ⟨next, cut, ready⟩ := Ready.word (isWord_truth value) ready stops
      rw [String.ofList_toList] at cut
      exact ⟨next, cut, ready⟩
  | number numeral => exact Ready.word (isWord_number numeral) ready stops
  | text letters =>
      obtain ⟨next, cut, calm, here, -⟩ := Ready.text ready
      exact ⟨next, cut, (ready_of_rest calm here).behind gap stops.apart⟩
  | emptyArray inside =>
      rw [write] at ready
      exact Ready.empty .square ready stops.apart
  | emptyObject inside =>
      rw [write] at ready
      exact Ready.empty .curly ready stops.apart
  | array before items =>
      rw [write] at ready
      obtain ⟨first, opened, ready, -⟩ := Ready.opens .square ready
      obtain ⟨last, cut, ready⟩ := Ready.items items
        (ready.behind before (items.write_apart _)) (stops_cons (by decide) _)
      obtain ⟨next, closed, ready⟩ := ready.closes .square
      exact ⟨next, opened.trans (cut.trans closed), ready.behind gap stops.apart⟩
  | object before fields =>
      rw [write] at ready
      obtain ⟨first, opened, ready, allows⟩ := Ready.opens .curly ready
      obtain ⟨last, cut, ready⟩ := Ready.fields fields
        (ready.behind before (fields.write_apart _)) allows (stops_cons (by decide) _)
      obtain ⟨next, closed, ready⟩ := ready.closes .curly
      exact ⟨next, opened.trans (cut.trans closed), ready.behind gap stops.apart⟩

theorem Ready.items (items : Items) {depth : Nat} {lexer : Lexer} {rest : List Char}
    (ready : Ready (depth + 1) (items.write rest) lexer) (stops : Stops true rest) :
    ∃ next, Cuts lexer items.tokens next ∧ Ready (depth + 1) rest next := by
  cases items with
  | last item behind =>
      rw [Items.write] at ready
      exact Ready.document item ready (inBrackets stops)
  | more item behind gap others =>
      rw [Items.write] at ready
      obtain ⟨first, cut, ready⟩ := Ready.document item ready
        (inBrackets (stops_cons (by decide) _))
      obtain ⟨second, entry, ready, -⟩ := ready.comma
      obtain ⟨next, cuts, ready⟩ := Ready.items others
        (ready.behind gap (others.write_apart _)) stops
      exact ⟨next, cut.trans (entry.trans cuts), ready⟩

theorem Ready.fields (fields : Fields) {depth : Nat} {lexer : Lexer} {rest : List Char}
    (ready : Ready (depth + 1) (fields.write rest) lexer) (allows : lexer.allowsKey = true)
    (stops : Stops true rest) :
    ∃ next, Cuts lexer fields.tokens next ∧ Ready (depth + 1) rest next := by
  cases fields with
  | last name item behind =>
      rw [Fields.write] at ready
      obtain ⟨first, named, ready⟩ := ready.name allows (item.write_apart _)
      obtain ⟨next, cut, ready⟩ := Ready.document item ready (inBrackets stops)
      exact ⟨next, named.trans cut, ready⟩
  | more name item behind gap others =>
      rw [Fields.write] at ready
      obtain ⟨first, named, ready⟩ := ready.name allows (item.write_apart _)
      obtain ⟨second, cut, ready⟩ := Ready.document item ready
        (inBrackets (stops_cons (by decide) _))
      obtain ⟨third, entry, ready, allows⟩ := ready.comma
      obtain ⟨next, cuts, ready⟩ := Ready.fields others
        (ready.behind gap (others.write_apart _)) allows stops
      exact ⟨next, named.trans (cut.trans (entry.trans cuts)), ready⟩

end

/-- At the end of the text the last token is cut. -/
theorem Ready.ends (ready : Ready 0 [] lexer) (bound : Nat) :
    run (bound + 1) lexer = .streamEnd :: lexer.tokens := by
  obtain ⟨gap, blank, here⟩ := ready.here
  have begins : Begins ([] : List Char) := by rintro _ ⟨⟩
  have calm := ready.toCalm.past gap
  have peeked : (lexer.past gap).cursor.peek = none := by
    rw [Cursor.peek, Lexer.past, Cursor.forward_rest, here, List.drop_left]
    rfl
  have finished : (lexer.past gap).finish =
      .ok { (lexer.past gap) with place := none, tokens := .streamEnd :: lexer.tokens } := by
    rw [finish, calm.unwind, calm.dropKey]
    rfl
  rw [run.eq_def]
  simp only [ready.toCalm.toToken blank begins here, peeked, finished]

end Yaml.Lexer

namespace Yaml

open Spelling

theorem Token.ofText_of_cuts {text : List Char} {tokens : List Token} {next : Lexer}
    (cut : Lexer.Cuts (.start text) tokens next) (ready : Lexer.Ready 0 [] next) :
    Token.ofText text = tokens ++ [.streamEnd] := by
  obtain ⟨count, enough, run⟩ := cut.steps
  have within : count + next.cursor.rest.length ≤ text.length := enough
  have split : text.length + 1 = count + (text.length - count + 1) := by omega
  rw [Token.ofText, split, run, ready.ends, cut.tokens_eq]
  simp [Lexer.start]

/-- **The tokens of a text** that is spelled with blanks around it. -/
theorem Token.ofText_write (before after : Gap) (spelling : Spelling) :
    Token.ofText (Text.unifyBreaks (before.chars ++ spelling.write after.chars)) =
      spelling.tokens ++ [.streamEnd] := by
  have start : Lexer.Ready 0 (before.chars ++ spelling.write (after.chars ++ []))
      (.start (Text.unifyBreaks (before.chars ++ spelling.write after.chars))) :=
    Lexer.ready_of_rest ⟨rfl, by simp [Lexer.start], rfl⟩ (by rw [List.append_nil]; rfl)
  obtain ⟨next, cut, ready⟩ :=
    Lexer.Ready.document spelling (start.behind before (spelling.write_apart _)) (by rintro _ ⟨⟩)
  exact Token.ofText_of_cuts cut ready

end Yaml

end AccessRules
