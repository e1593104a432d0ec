import AccessRules.Yaml.Token.Lexer

/-!
# What goes wrong while a text is cut

Cutting a text into tokens ends at a place where it is malformed, or at a fault. There are two kinds
of faults only: an escape for a code beyond the last character, and a version with more digits than
integers are read with. `Oversize` says where in the text they stand. Nor is a text followed behind
an escape for half a character (`Halved`).

A reader never leaves the text (`Cursor.Within`), and whatever it comes to is `Confined` to it: a
value as it should be, or a trouble that the text gives cause for. Each reader has one lemma here,
and from these each function of the lexer. **`mem_ofText_broken`** puts them together: a fault at
which the tokens of a text break off is one for which something in the text is too large.
-/

namespace AccessRules.Yaml

open Text (hexNumber?)

/-- Something in the text is too large: the code of an escape, or the number of a version. -/
inductive Oversize (text : List Char) : Fault → Prop where
  | code {before digits behind : List Char} {letter : Char} {width code : Nat}
      (there : text = before ++ '\\' :: letter :: (digits ++ behind))
      (wide : escapeWidth? letter = some width) (exact : digits.length = width)
      (named : hexNumber? digits = some code) (beyond : 0x110000 ≤ code) :
      Oversize text (if 0x80000000 ≤ code then .tooLarge else .wrongValue .codePoint)
  | version {before digits behind : List Char} (there : text = before ++ (digits ++ behind))
      (number : ∀ c ∈ digits, c.isDigit = true) (long : Number.digitLimit < digits.length) :
      Oversize text (.wrongValue (.tooManyDigits digits.length))

/-- The code of an escape in the text is half a character. -/
def Halved (text : List Char) : Prop :=
  ∃ before digits behind letter width code,
    text = before ++ '\\' :: letter :: (digits ++ behind) ∧ escapeWidth? letter = some width ∧
      digits.length = width ∧ hexNumber? digits = some code ∧ Json.isHalf code = true

/-- The text is malformed, or something in it is too large, or half a character. -/
def Trouble.IsOf (text : List Char) : Trouble → Prop
  | .malformed => True
  | .fault found => Oversize text found
  | .beyond => Halved text

/-- What a reader comes to: a value as it should be, or a trouble of the text. -/
def Confined {α : Type} (text : List Char) (sound : α → Prop) : Except Trouble α → Prop
  | .ok value => sound value
  | .error trouble => trouble.IsOf text

section

variable {α β : Type} {text : List Char} {sound : α → Prop} {sound' : β → Prop}

theorem Confined.bind {first : Except Trouble α} {next : α → Except Trouble β}
    (confined : Confined text sound first)
    (goesOn : ∀ value, sound value → Confined text sound' (next value)) :
    Confined text sound' (first >>= next) := by
  cases first with
  | ok value => exact goesOn value confined
  | error trouble => exact confined

theorem Confined.ite {condition : Prop} [Decidable condition] {one other : Except Trouble α}
    (confined : Confined text sound one) (confined' : Confined text sound other) :
    Confined text sound (if condition then one else other) := by
  split
  · exact confined
  · exact confined'

end

/-! ### Positions -/

namespace Cursor

/-- The position is one in the text. -/
def Within (text : List Char) (cursor : Cursor) : Prop := cursor.rest <:+ text

variable {text : List Char} {cursor : Cursor}

theorem Within.forward (within : cursor.Within text) (n : Nat) :
    (cursor.forward n).Within text := by
  rw [Within, forward_rest]
  exact (List.drop_suffix n cursor.rest).trans within

theorem Within.step (within : cursor.Within text) : cursor.step.Within text := within.forward 1

theorem Within.skipWhile (within : cursor.Within text) (skip : Char → Bool) :
    (cursor.skipWhile skip).Within text := within.forward _

theorem Within.skipSpaces (within : cursor.Within text) : cursor.skipSpaces.Within text :=
  within.skipWhile _

theorem Within.skipComment (within : cursor.Within text) : cursor.skipComment.Within text := by
  rw [Cursor.skipComment]
  split
  · exact within.skipWhile _
  · exact within

theorem Within.lineBreak (within : cursor.Within text) : cursor.lineBreak.2.Within text := by
  rw [Cursor.lineBreak]
  split
  · split
    · exact within.step
    · split
      · exact within.step
      · exact within
  · exact within

theorem Within.endLine (within : cursor.Within text) :
    Confined text (Cursor.Within text) cursor.endLine := by
  rw [Cursor.endLine]
  split
  · exact within.skipSpaces.skipComment.lineBreak
  · trivial

end Cursor

variable {text : List Char} {cursor : Cursor}

/-- What a reader finds, and a position in the text behind it. -/
abbrev Ends {α : Type} (text : List Char) (found : α × Cursor) : Prop := found.2.Within text

/-! ### Names -/

theorem expect_confined (p : Option Char → Bool) (cursor : Cursor) :
    Confined text (fun _ => True) (expect p cursor) := by
  rw [expect]
  split <;> trivial

theorem readName_confined (within : cursor.Within text) :
    Confined text (Ends text) (readName cursor) := by
  rw [readName]
  split
  · trivial
  · exact within.forward _

theorem readAnchor_confined (within : cursor.Within text) :
    Confined text (Ends text) (readAnchor cursor) := by
  refine (readName_confined within.step).bind fun (_, _) within => ?_
  exact (expect_confined _ _).bind fun _ _ => within

theorem escapedBytes_confined (chars : List Char) :
    Confined text (fun _ => True) (escapedBytes chars) := by
  fun_induction escapedBytes chars with
  | case1 a b rest high low highDigit lowDigit ih => exact ih.bind fun _ _ => trivial
  | _ => trivial

theorem addressBody_confined (bound : Nat) (within : cursor.Within text) :
    Confined text (Ends text) (addressBody bound cursor) := by
  induction bound generalizing cursor with
  | zero => exact within
  | succ bound ih =>
      rw [addressBody]
      split
      · exact within
      · split
        · refine (escapedBytes_confined _).bind fun bytes _ => ?_
          split
          · trivial
          · exact (ih (within.forward _)).bind fun (_, _) within => within
        · split
          · exact (ih within.step).bind fun (_, _) within => within
          · exact within

theorem readAddress_confined (within : cursor.Within text) :
    Confined text (Ends text) (readAddress cursor) := by
  refine (addressBody_confined _ within).bind fun found behind => ?_
  dsimp only
  split
  · trivial
  · exact behind

theorem readHandle_confined (within : cursor.Within text) :
    Confined text (Ends text) (readHandle cursor) := by
  rw [readHandle]
  split
  · exact within.step
  · dsimp only
    split
    · exact within.forward _
    · trivial
  · trivial

theorem readTag_confined (within : cursor.Within text) :
    Confined text (Ends text) (readTag cursor) := by
  unfold readTag
  extract_lets last word address
  have last_confined (tag : TagText) {cursor : Cursor} (behind : cursor.Within text) :
      Confined text (Ends text) (last (tag, cursor)) :=
    (expect_confined _ _).bind fun _ _ => behind
  have address_confined (handle : String) {cursor : Cursor} (behind : cursor.Within text) :
      Confined text (Ends text) (address (handle, cursor)) :=
    (readAddress_confined behind).bind fun (_, _) behind => last_confined _ behind
  split
  · refine (readAddress_confined (within.forward 2)).bind fun (_, _) behind => ?_
    exact (expect_confined _ _).bind fun _ _ => last_confined _ (Cursor.Within.step behind)
  · split
    · exact last_confined _ within.step
    · split
      · exact (readHandle_confined within).bind fun (handle, _) behind =>
          address_confined handle behind
      · exact address_confined "!" within.step

/-- The digits in front of a position in the text are digits in the text. -/
theorem readNumber_confined (within : cursor.Within text) :
    Confined text (Ends text) (readNumber cursor) := by
  unfold readNumber
  extract_lets digits
  split
  · trivial
  · split
    next long =>
      obtain ⟨before, same⟩ := within
      have there : text = before ++ (digits ++ cursor.rest.dropWhile Char.isDigit) := by
        rw [List.takeWhile_append_dropWhile, same]
      exact Oversize.version there (List.all_eq_true.1 List.all_takeWhile) long
    next => exact within.forward _

theorem readDirective_confined (within : cursor.Within text) :
    Confined text (Ends text) (readDirective cursor) := by
  unfold readDirective
  refine (readName_confined within.step).bind fun (name, cursor) behind => ?_
  refine (expect_confined _ _).bind fun _ _ => ?_
  extract_lets last
  have last_confined (directive : Directive) {cursor : Cursor} (behind : cursor.Within text) :
      Confined text (Ends text) (last (directive, cursor)) :=
    behind.endLine.bind fun _ behind => behind
  replace behind : cursor.Within text := behind
  split
  · refine (readNumber_confined behind.skipSpaces).bind fun (major, cursor) behind => ?_
    refine (expect_confined _ _).bind fun _ _ => ?_
    refine (readNumber_confined (Cursor.Within.step behind)).bind fun (_, _) behind => ?_
    refine (expect_confined _ _).bind fun _ _ => ?_
    exact last_confined (.version major) behind
  · split
    · refine (readHandle_confined behind.skipSpaces).bind fun (handle, cursor) behind => ?_
      refine (expect_confined _ _).bind fun _ _ => ?_
      refine (readAddress_confined (Cursor.Within.skipSpaces behind)).bind
        fun (lead, _) behind => ?_
      refine (expect_confined _ _).bind fun _ _ => ?_
      exact last_confined (.tag handle lead) behind
    · exact last_confined .other (behind.skipWhile _)

/-! ### Scalars -/

theorem quotedBreaks_confined (bound : Nat) (within : cursor.Within text) :
    Confined text (Ends text) (quotedBreaks bound cursor) := by
  induction bound generalizing cursor with
  | zero => exact within
  | succ bound ih =>
      rw [quotedBreaks]
      split
      · trivial
      · have behind := within.skipWhile isSpace
        dsimp only
        split
        · exact (ih behind.lineBreak).bind fun (_, _) behind => behind
        · exact behind

theorem quotedSpaces_confined (within : cursor.Within text) :
    Confined text (Ends text) (quotedSpaces cursor) := by
  unfold quotedSpaces
  extract_lets blanks behind
  have inside : behind.Within text := within.forward _
  split
  · trivial
  · split
    · exact (quotedBreaks_confined _ inside.lineBreak).bind fun (_, _) behind => behind
    · exact inside

/-- The code of an escape is named by the digits behind its letter. -/
theorem codeEscape?_cases {code : Nat} {behind : Cursor}
    (named : codeEscape? cursor = some (code, behind)) :
    ∃ letter digits rest width, cursor.rest = letter :: (digits ++ rest) ∧
      escapeWidth? letter = some width ∧ digits.length = width ∧
      hexNumber? digits = some code ∧ behind = cursor.forward (width + 1) := by
  obtain ⟨letter, peeked, named⟩ := Option.bind_eq_some_iff.1 named
  obtain ⟨width, wide, named⟩ := Option.bind_eq_some_iff.1 named
  dsimp only at named
  split at named
  next => cases named
  next enough =>
    obtain ⟨code', number, same⟩ := Option.bind_eq_some_iff.1 named
    cases same
    refine ⟨letter, (cursor.rest.drop 1).take width, (cursor.rest.drop 1).drop width, width, ?_,
      wide, ?_, number, rfl⟩
    · rw [List.take_append_drop]
      cases same : cursor.rest with
      | nil => simp [Cursor.peek, same] at peeked
      | cons c rest =>
          obtain rfl : c = letter := by simpa [Cursor.peek, same] using peeked
          rfl
    · have least : ((cursor.rest.drop 1).take width).length ≤ width := List.length_take_le ..
      omega

/-- What an escape behind a backslash in the text stands for. -/
theorem escapedChar_confined {code : Nat} {behind : Cursor}
    (within : '\\' :: cursor.rest <:+ text) (named : codeEscape? cursor = some (code, behind)) :
    Confined text (Ends text) (escapedChar code behind) := by
  obtain ⟨letter, digits, rest, width, here, wide, exact, number, rfl⟩ := codeEscape?_cases named
  have inside : cursor.Within text := (List.suffix_cons ..).trans within
  obtain ⟨before, there⟩ := within
  rw [here] at there
  rw [escapedChar]
  split
  next huge =>
    have oversize := Oversize.code there.symm wide exact number (by omega)
    rwa [if_pos huge] at oversize
  next small =>
    split
    next beyond =>
      have oversize := Oversize.code there.symm wide exact number beyond
      rwa [if_neg small] at oversize
    next =>
      split
      next half =>
        exact ⟨before, digits, rest, letter, width, code, there.symm, wide, exact, number, half⟩
      next => exact inside.forward (width + 1)

theorem escape_confined (within : '\\' :: cursor.rest <:+ text) :
    Confined text (Ends text) (escape cursor) := by
  have inside : cursor.Within text := (List.suffix_cons ..).trans within
  rw [escape]
  split
  · trivial
  · split
    next => exact inside.step
    next named => exact escapedChar_confined within named
    next =>
      split
      · exact quotedBreaks_confined _ inside.lineBreak
      · trivial

/-- The character at a position in the text stands in front of the next position. -/
theorem cons_suffix_of_peek {c : Char} (within : cursor.Within text)
    (peeked : cursor.peek = some c) : c :: cursor.step.rest <:+ text := by
  obtain ⟨rest, here⟩ := List.head?_eq_some_iff.1 peeked
  rwa [Cursor.step_rest, here, List.tail_cons, ← here]

theorem quotedBody_confined (double : Bool) (bound : Nat) (within : cursor.Within text) :
    Confined text (Ends text) (quotedBody double bound cursor) := by
  induction bound generalizing cursor with
  | zero => trivial
  | succ bound ih =>
      rw [quotedBody]
      generalize (if double then '"' else '\'') = quote
      split
      next => trivial
      next c peeked =>
        split
        · exact (quotedSpaces_confined within).bind fun _ behind =>
            (ih behind).bind fun _ behind => behind
        · split
          · exact (ih (within.forward 2)).bind fun _ behind => behind
          · split
            · exact within.step
            · split
              next escaped =>
                obtain rfl : c = '\\' := by simpa using ((Bool.and_eq_true ..).mp escaped).2
                exact (escape_confined (cons_suffix_of_peek within peeked)).bind fun _ behind =>
                  (ih behind).bind fun _ behind => behind
              next => exact (ih within.step).bind fun _ behind => behind

theorem quotedScalar_confined (double : Bool) (within : cursor.Within text) :
    Confined text (Ends text) (quotedScalar double cursor) :=
  quotedBody_confined double _ within.step

theorem plainBreaks_within (bound : Nat) (within : cursor.Within text) :
    (plainBreaks bound cursor).2.Within text := by
  induction bound generalizing cursor with
  | zero => exact within
  | succ bound ih =>
      rw [plainBreaks]
      split
      · exact ih within.step
      · split
        · have behind := within.lineBreak
          generalize cursor.lineBreak = broken at behind ⊢
          obtain ⟨chars, next⟩ := broken
          dsimp only
          split
          · exact behind
          · exact ih behind
        · exact within

theorem plainSpaces_within (within : cursor.Within text) :
    (plainSpaces cursor).2.2.Within text := by
  unfold plainSpaces
  extract_lets blanks next
  have inside : next.Within text := within.forward _
  split
  · have behind := inside.lineBreak
    generalize next.lineBreak = broken at behind ⊢
    obtain ⟨first, next⟩ := broken
    dsimp only
    split
    · exact behind
    · have folded := plainBreaks_within (next.rest.length + 1) behind
      split
      next same => rwa [same] at folded
      next same => rwa [same] at folded
  · exact inside

theorem plainFrom_within (inFlow : Bool) (indent : Int) (bound : Nat) (gap : List Char)
    (broke : Bool) (within : cursor.Within text) :
    (plainFrom inFlow indent bound gap broke cursor).2.2.Within text := by
  induction bound generalizing gap broke cursor with
  | zero => exact within
  | succ bound ih =>
      unfold plainFrom
      split
      · exact within
      · extract_lets word
        split
        · exact within
        · have spaced := plainSpaces_within (within.forward word.length)
          generalize plainSpaces (cursor.forward word.length) = spaces at spaced ⊢
          obtain ⟨spaces, broke, next⟩ := spaces
          dsimp only
          split
          · exact spaced
          · exact ih _ _ spaced

theorem plainScalar_within (inFlow : Bool) (indent : Int) (within : cursor.Within text) :
    (plainScalar inFlow indent cursor).2.2.Within text :=
  plainFrom_within inFlow indent _ _ _ within

theorem blockHeader_confined (within : cursor.Within text) :
    Confined text (fun found => found.2.2.Within text) (blockHeader cursor) := by
  unfold blockHeader
  split
  next chomping indentation next marks =>
    have behind : next.Within text := by
      split at marks
      · split at marks
        · cases marks
          exact within.forward 2
        · cases marks
          exact within.step
      · split at marks
        · split at marks
          · cases marks
            exact within.forward 2
          · cases marks
            exact within.step
        · cases marks
          exact within
    split
    · trivial
    · exact behind.endLine.bind fun _ behind => behind

theorem leadingBreaks_within (bound deepest : Nat) (within : cursor.Within text) :
    (leadingBreaks bound deepest cursor).2.2.Within text := by
  induction bound generalizing deepest cursor with
  | zero => exact within
  | succ bound ih =>
      rw [leadingBreaks]
      split
      · exact ih _ within.step
      · split
        · exact ih _ within.lineBreak
        · exact within

theorem blockBreaks_within (indent bound : Nat) (within : cursor.Within text) :
    (blockBreaks indent bound cursor).2.Within text := by
  induction bound generalizing cursor with
  | zero => exact within
  | succ bound ih =>
      have inside : (skipIndent indent cursor).Within text := within.forward _
      rw [blockBreaks]
      dsimp only
      split
      · exact ih inside.lineBreak
      · exact inside

theorem blockLines_within (folded : Bool) (indent bound : Nat) (within : cursor.Within text) :
    (blockLines folded indent bound cursor).2.2.2.Within text := by
  induction bound generalizing cursor with
  | zero => exact within
  | succ bound ih =>
      unfold blockLines
      extract_lets line startsFlush
      have behind := (within.forward line.length).lineBreak
      generalize (cursor.forward line.length).lineBreak = broken at behind ⊢
      obtain ⟨first, next⟩ := broken
      have deeper := blockBreaks_within indent (next.rest.length + 1) behind
      dsimp only
      generalize blockBreaks indent (next.rest.length + 1) next = breaks at deeper ⊢
      obtain ⟨others, next⟩ := breaks
      dsimp only
      split
      · exact ih deeper
      · exact deeper

/-- The text of a block, if it has any, does not leave the text either. -/
theorem blockText_within (folded : Bool) (indent bound : Nat) (leading : List Char)
    {next : Cursor} (inside : next.Within text) :
    (if isBlockLine indent next then
      let (text, first, last, cursor) := blockLines folded indent bound next
      (leading ++ text, first, last, cursor)
    else ([], [], leading, next)).2.2.2.Within text := by
  split
  · exact blockLines_within folded indent _ inside
  · exact inside

theorem blockScalar_confined (folded : Bool) (outer : Int) (within : cursor.Within text) :
    Confined text (Ends text) (blockScalar folded outer cursor) := by
  unfold blockScalar
  refine (blockHeader_confined within.step).bind ?_
  rintro ⟨_, indentation, cursor⟩ behind
  replace behind : cursor.Within text := behind
  cases indentation with
  | none =>
      have inside := leadingBreaks_within (cursor.rest.length + 1) 0 behind
      exact blockText_within folded _ (cursor.rest.length + 1) _ inside
  | some n =>
      have inside := blockBreaks_within ((max (outer + 1) 1).toNat + n - 1)
        (cursor.rest.length + 1) behind
      exact blockText_within folded _ (cursor.rest.length + 1) _ inside

/-! ### The lexer -/

namespace Lexer

/-- The lexer stands in the text, and its tokens do not break off. -/
structure Inside (text : List Char) (lexer : Lexer) : Prop where
  within : lexer.cursor.Within text
  whole : ∀ trouble, .broken trouble ∉ lexer.tokens

variable {lexer : Lexer} {added : Token}

theorem Inside.push (inside : lexer.Inside text) (sound : ∀ trouble, added ≠ .broken trouble) :
    (lexer.push added).Inside text where
  within := inside.within
  whole trouble among := by
    obtain same | among := List.mem_cons.1 among
    · exact sound trouble same.symm
    · exact inside.whole trouble among

theorem Inside.moveTo (inside : lexer.Inside text) {next : Cursor} (within : next.Within text) :
    Inside text { lexer with cursor := next } :=
  ⟨within, inside.whole⟩

theorem Inside.pushOver (inside : lexer.Inside text) (n : Nat)
    (sound : ∀ trouble, added ≠ .broken trouble) : (lexer.pushOver added n).Inside text :=
  (inside.push sound).moveTo (inside.within.forward n)

theorem Inside.allowKey (inside : lexer.Inside text) (allowsKey : Bool) :
    (lexer.allowKey allowsKey).Inside text :=
  ⟨inside.within, inside.whole⟩

theorem Inside.dropKey (inside : lexer.Inside text) :
    Confined text (Inside text) lexer.dropKey := by
  rw [Lexer.dropKey]
  split
  · trivial
  · exact ⟨inside.within, inside.whole⟩

theorem Inside.keepKey (inside : lexer.Inside text) :
    Confined text (Inside text) lexer.keepKey := by
  rw [Lexer.keepKey]
  split
  · exact inside.dropKey.bind fun _ inside => ⟨inside.within, inside.whole⟩
  · exact inside

theorem Inside.dropStale (inside : lexer.Inside text) :
    Confined text (Inside text) lexer.dropStale := by
  unfold Lexer.dropStale
  extract_lets isStale fresh
  split
  · trivial
  · exact ⟨inside.within, inside.whole⟩

theorem Inside.unwind (inside : lexer.Inside text) (column : Int) :
    (lexer.unwind column).Inside text := by
  unfold Lexer.unwind
  split
  · exact inside
  · refine ⟨inside.within, fun trouble among => ?_⟩
    obtain among | among := List.mem_append.1 among
    · cases List.eq_of_mem_replicate among
    · exact inside.whole trouble among

theorem Inside.openHere (inside : lexer.Inside text)
    (sound : ∀ trouble, added ≠ .broken trouble) :
    Confined text (Inside text) (lexer.openHere added) := by
  rw [Lexer.openHere]
  split
  · exact inside
  · split
    · rw [openBlock]
      split
      · exact ⟨inside.within, (inside.push sound).whole⟩
      · exact inside
    · trivial

theorem Inside.skipGap (inside : lexer.Inside text) (bound : Nat) :
    (lexer.skipGap bound).Inside text := by
  induction bound generalizing lexer with
  | zero => exact inside
  | succ bound ih =>
      have behind := inside.within.skipSpaces.skipComment
      rw [Lexer.skipGap]
      split
      · exact ih ⟨behind.lineBreak, inside.whole⟩
      · exact inside.moveTo behind

theorem Inside.toToken (inside : lexer.Inside text) :
    Confined text (Inside text) lexer.toToken := by
  unfold Lexer.toToken
  extract_lets cursor start
  have within : start.Within text := by
    unfold start
    split
    · exact inside.within.step
    · exact inside.within
  exact ((inside.moveTo within).skipGap _).dropStale.bind fun _ inside => inside.unwind _

theorem Inside.finish (inside : lexer.Inside text) :
    Confined text (Inside text) lexer.finish :=
  (inside.unwind (-1)).dropKey.bind fun _ inside => inside.push fun _ => Token.noConfusion

theorem Inside.separator (inside : lexer.Inside text)
    (sound : ∀ trouble, added ≠ .broken trouble) :
    Confined text (Inside text) (lexer.separator added) :=
  (inside.unwind (-1)).dropKey.bind fun _ inside => (inside.allowKey false).pushOver 3 sound

theorem Inside.directive (inside : lexer.Inside text) :
    Confined text (Inside text) lexer.directive := by
  refine (inside.unwind (-1)).dropKey.bind fun _ inside => ?_
  refine (readDirective_confined inside.within).bind fun (_, _) behind => ?_
  exact ((inside.allowKey false).push fun _ => Token.noConfusion).moveTo behind

theorem Inside.openBracket (inside : lexer.Inside text)
    (sound : ∀ trouble, added ≠ .broken trouble) :
    Confined text (Inside text) (lexer.openBracket added) := by
  refine inside.keepKey.bind fun _ inside => ?_
  have opened := (inside.allowKey true).pushOver 1 sound
  exact ⟨opened.within, opened.whole⟩

theorem Inside.closeBracket (inside : lexer.Inside text)
    (sound : ∀ trouble, added ≠ .broken trouble) :
    Confined text (Inside text) (lexer.closeBracket added) := by
  refine inside.dropKey.bind fun _ inside => ?_
  split
  · trivial
  · have closed := (inside.allowKey false).pushOver 1 sound
    exact ⟨closed.within, closed.whole⟩

theorem Inside.comma (inside : lexer.Inside text) :
    Confined text (Inside text) lexer.comma :=
  (inside.allowKey true).dropKey.bind fun _ inside =>
    inside.pushOver 1 fun _ => Token.noConfusion

theorem Inside.entryMark (inside : lexer.Inside text) :
    Confined text (Inside text) lexer.entryMark := by
  refine (inside.openHere fun _ => Token.noConfusion).bind fun _ inside => ?_
  exact (inside.allowKey true).dropKey.bind fun _ inside =>
    inside.pushOver 1 fun _ => Token.noConfusion

theorem Inside.keyMark (inside : lexer.Inside text) :
    Confined text (Inside text) lexer.keyMark := by
  refine (inside.openHere fun _ => Token.noConfusion).bind fun _ inside => ?_
  exact (inside.allowKey _).dropKey.bind fun _ inside =>
    inside.pushOver 1 fun _ => Token.noConfusion

theorem not_mem_insertIdx_broken {tokens : List Token}
    (whole : ∀ trouble, .broken trouble ∉ tokens) (sound : ∀ trouble, added ≠ .broken trouble)
    (n : Nat) (trouble : Trouble) : .broken trouble ∉ tokens.insertIdx n added := by
  by_cases reached : n ≤ tokens.length
  · rw [List.mem_insertIdx reached]
    rintro (same | among)
    · exact sound trouble same.symm
    · exact whole trouble among
  · rw [List.insertIdx_of_length_lt (Nat.not_le.1 reached)]
    exact whole trouble

theorem Inside.insertKey (inside : lexer.Inside text) (place : KeyPlace) :
    (lexer.insertKey place).Inside text := by
  unfold Lexer.insertKey
  extract_lets behind tokens
  have keyed : ∀ trouble, .broken trouble ∉ tokens :=
    not_mem_insertIdx_broken inside.whole (fun _ => Token.noConfusion) behind
  split
  · exact ⟨inside.within,
      not_mem_insertIdx_broken keyed (fun _ => Token.noConfusion) (behind + 1)⟩
  · exact ⟨inside.within, keyed⟩

theorem Inside.colon (inside : lexer.Inside text) :
    Confined text (Inside text) lexer.colon := by
  rw [Lexer.colon]
  split
  next place _ =>
    have placed : Inside text { lexer with place := none } := ⟨inside.within, inside.whole⟩
    exact ((placed.insertKey place).allowKey false).pushOver 1 fun _ => Token.noConfusion
  next =>
    refine (inside.openHere fun _ => Token.noConfusion).bind fun _ inside => ?_
    exact (inside.allowKey _).pushOver 1 fun _ => Token.noConfusion

theorem Inside.keyed {α : Type} {read : Cursor → Except Trouble (α × Cursor)} {made : α → Token}
    (inside : lexer.Inside text)
    (confined : ∀ {cursor : Cursor}, cursor.Within text → Confined text (Ends text) (read cursor))
    (sound : ∀ found trouble, made found ≠ .broken trouble) :
    Confined text (Inside text) (lexer.keyed read made) := by
  refine inside.keepKey.bind fun _ inside => ?_
  refine (confined inside.within).bind fun (found, _) behind => ?_
  exact ((inside.allowKey false).push (sound found)).moveTo behind

theorem Inside.block (inside : lexer.Inside text) (folded : Bool) :
    Confined text (Inside text) (lexer.block folded) := by
  refine (inside.allowKey true).dropKey.bind fun lexer inside => ?_
  refine (blockScalar_confined folded lexer.indent inside.within).bind fun (_, _) behind => ?_
  exact (inside.push fun _ => Token.noConfusion).moveTo behind

theorem Inside.plain (inside : lexer.Inside text) :
    Confined text (Inside text) lexer.plain := by
  refine inside.keepKey.bind fun lexer inside => ?_
  have behind := plainScalar_within lexer.inFlow (lexer.indent + 1) inside.within
  exact ((inside.allowKey _).push fun _ => Token.noConfusion).moveTo behind

theorem Inside.token (inside : lexer.Inside text) (c : Char) :
    Confined text (Inside text) (lexer.token c) := by
  unfold Lexer.token
  extract_lets cursor atGap
  refine .ite inside.directive ?_
  refine .ite (inside.separator fun _ => Token.noConfusion) ?_
  refine .ite (inside.separator fun _ => Token.noConfusion) ?_
  refine .ite (inside.openBracket fun _ => Token.noConfusion) ?_
  refine .ite (inside.openBracket fun _ => Token.noConfusion) ?_
  refine .ite (inside.closeBracket fun _ => Token.noConfusion) ?_
  refine .ite (inside.closeBracket fun _ => Token.noConfusion) ?_
  refine .ite inside.comma ?_
  refine .ite inside.entryMark ?_
  refine .ite inside.keyMark ?_
  refine .ite inside.colon ?_
  refine .ite (inside.keyed readAnchor_confined fun _ _ => Token.noConfusion) ?_
  refine .ite (inside.keyed readAnchor_confined fun _ _ => Token.noConfusion) ?_
  refine .ite (inside.keyed readTag_confined fun _ _ => Token.noConfusion) ?_
  refine .ite (inside.block false) ?_
  refine .ite (inside.block true) ?_
  refine .ite (inside.keyed (quotedScalar_confined false) fun _ _ => Token.noConfusion) ?_
  refine .ite (inside.keyed (quotedScalar_confined true) fun _ _ => Token.noConfusion) ?_
  exact .ite inside.plain trivial

/-- The tokens that a lexer has settled are among its tokens. -/
theorem mem_of_mem_settled {token : Token} (among : token ∈ lexer.settled) :
    token ∈ lexer.tokens := by
  unfold settled at among
  extract_lets places at among
  split at among
  · exact List.mem_of_mem_drop among
  · exact among

/-- The tokens of a text that break off do so with a trouble of the text. -/
theorem Inside.run (inside : lexer.Inside text) (bound : Nat) {trouble : Trouble}
    (broken : .broken trouble ∈ lexer.run bound) : trouble.IsOf text := by
  -- Whatever the lexer has cut so far is whole, so that only the last token breaks off.
  have last {found : Trouble} {tokens : List Token} (confined : found.IsOf text)
      (whole : .broken trouble ∉ tokens) (broken : .broken trouble ∈ .broken found :: tokens) :
      trouble.IsOf text := by
    obtain same | among := List.mem_cons.1 broken
    · cases same
      exact confined
    · exact absurd among whole
  -- Each round cuts one token from inside the text and leaves the lexer inside it.
  induction bound generalizing lexer with
  | zero => exact last (show Trouble.malformed.IsOf text from trivial) (inside.whole _) broken
  | succ bound ih =>
      have settled : .broken trouble ∉ lexer.settled :=
        fun among => inside.whole trouble (mem_of_mem_settled among)
      have arrived := inside.toToken
      unfold Lexer.run at broken
      cases arrives : lexer.toToken with
      | error found =>
          rw [arrives] at arrived broken
          exact last arrived settled broken
      | ok next =>
          rw [arrives] at arrived broken
          replace arrived : next.Inside text := arrived
          dsimp only at broken
          split at broken
          · have ended := arrived.finish
            split at broken
            next failed =>
              rw [failed] at ended
              exact last ended settled broken
            next finished =>
              rw [finished] at ended
              exact absurd broken (Inside.whole ended trouble)
          next c _ =>
            have cut := arrived.token c
            split at broken
            next failed =>
              rw [failed] at cut
              exact last cut settled broken
            next behind =>
              rw [behind] at cut
              exact ih cut broken

end Lexer

/-- **The troubles of a text.** The tokens of a text break off where it is malformed, or where
something in it is too large or half a character. -/
theorem mem_ofText_broken {trouble : Trouble} (broken : .broken trouble ∈ Token.ofText text) :
    trouble.IsOf text := by
  have start : (Lexer.start text).Inside text := ⟨List.suffix_refl text, fun _ => List.not_mem_nil⟩
  exact start.run _ (List.mem_reverse.1 broken)

end AccessRules.Yaml
