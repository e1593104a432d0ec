import AccessRules.Proofs.Numeral.Float
import AccessRules.Settings.Basic

/-!
# What stands for a number of seconds

The number of seconds that an answer may take can be given as a float, as an integer, as a truth
value, or as a text. `StandsFor` says which float each of them is, for texts by a grammar that
carries the sign, the digits and the power of ten along: a numeral with blanks around it (`Writes`),
or one with single underscores inside.

**`standsFor_iff`** says that documents are read as what they stand for, and that no others are.
-/

namespace AccessRules.Settings

open Number Numeral

/-! ### The grammar -/

/-- A sign or none, and whether it is a minus. -/
inductive Sign : List Char → Bool → Prop
  | absent : Sign [] false
  | plus : Sign ['+'] false
  | minus : Sign ['-'] true

/-- Nothing, or an exponent with its letter and a sign, and the power of ten that it is. -/
inductive Scale : List Char → Int → Prop
  | absent : Scale [] 0
  | present {letter : Char} {sign digits : List Char} {negative : Bool}
      (known : letter = 'e' ∨ letter = 'E') (signed : Sign sign negative) (nonempty : digits ≠ [])
      (all : ∀ c ∈ digits, isPlainDigit c = true) :
      Scale (letter :: (sign ++ digits))
        (if negative then -(digitsValue digits : Int) else digitsValue digits)

/-- A numeral without sign, and its parts: digits with an exponent, or with a point that has digits
on one of its sides at least. -/
inductive Splits : List Char → DecimalParts → Prop
  | whole {whole scale : List Char} {exponent : Int} (nonempty : whole ≠ [])
      (digits : ∀ c ∈ whole, isPlainDigit c = true) (scaled : Scale scale exponent) :
      Splits (whole ++ scale) ⟨whole, [], exponent⟩
  | pointed {whole fraction scale : List Char} {exponent : Int} (nonempty : whole ++ fraction ≠ [])
      (digits : ∀ c ∈ whole ++ fraction, isPlainDigit c = true) (scaled : Scale scale exponent) :
      Splits (whole ++ '.' :: (fraction ++ scale)) ⟨whole, fraction, exponent⟩

/-- The names of infinity, in lower case. -/
def infinityNames : List (List Char) := ["inf".toList, "infinity".toList]

/-- A numeral with a sign or none, and the float nearest to it. -/
inductive Writes : List Char → Float → Prop
  | infinity {sign name : List Char} {negative : Bool} (signed : Sign sign negative)
      (named : name.map plainLower ∈ infinityNames) :
      Writes (sign ++ name) (ofMagnitudeBits negative infinityBits)
  | notANumber {sign name : List Char} {negative : Bool} (signed : Sign sign negative)
      (named : name.map plainLower = "nan".toList) : Writes (sign ++ name) (0.0 / 0.0)
  | finite {sign text whole fraction : List Char} {exponent : Int} {negative : Bool}
      (signed : Sign sign negative) (splits : Splits text ⟨whole, fraction, exponent⟩) :
      Writes (sign ++ text)
        (ofDecimal negative (digitsValue (whole ++ fraction)) (exponent - fraction.length))

/-- The document is the number, or a text that writes it. -/
inductive StandsFor : Document → Float → Prop
  | float (x : Float) : StandsFor (.float x) x
  | truth (b : Bool) : StandsFor (.bool b) (if b then 1.0 else 0.0)
  | int {i : Int} {x : Float} (nearest : ofInt? i = some x) : StandsFor (.int i) x
  | surrounded {document : Document} {front numeral back : List Char} {x : Float}
      (isText : document.text? = some (String.ofList (front ++ (numeral ++ back))))
      (before : ∀ c ∈ front, Text.isNumeralBlank c = true)
      (behind : ∀ c ∈ back, Text.isNumeralBlank c = true) (writes : Writes numeral x) :
      StandsFor document x
  | grouped {document : Document} {text : String} {x : Float} (isText : document.text? = some text)
      (first : text.toList.head? ≠ some '_') (last : text.toList.getLast? ≠ some '_')
      (apart : Separated text.toList) (writes : Writes (text.toList.filter (· != '_')) x) :
      StandsFor document x

/-! ### Reading numerals -/

theorem Sign.isSign {sign : List Char} {negative : Bool} (signed : Sign sign negative) :
    IsSign sign := by
  cases signed with
  | absent => exact .inl rfl
  | plus => exact .inr (.inl rfl)
  | minus => exact .inr (.inr rfl)

theorem exists_sign (text : List Char) :
    ∃ sign, Sign sign (splitSign text).1 ∧ text = sign ++ (splitSign text).2 := by
  unfold splitSign
  split
  · exact ⟨['-'], .minus, rfl⟩
  · exact ⟨['+'], .plus, rfl⟩
  · exact ⟨[], .absent, rfl⟩

theorem Sign.split {sign text : List Char} {negative : Bool} (signed : Sign sign negative)
    (unsigned : ∀ c ∈ text.head?, c ≠ '+' ∧ c ≠ '-') :
    splitSign (sign ++ text) = (negative, text) := by
  cases signed with
  | plus => rfl
  | minus => rfl
  | absent =>
      rw [List.nil_append]
      unfold splitSign
      split
      · exact absurd rfl (unsigned '-' rfl).2
      · exact absurd rfl (unsigned '+' rfl).1
      · rfl

theorem Scale.isExponent {text : List Char} {exponent : Int} (scaled : Scale text exponent) :
    IsExponent isPlainDigit text := by
  cases scaled with
  | absent => exact .absent
  | present known signed nonempty all => exact .present known signed.isSign nonempty all

theorem Scale.stops {text : List Char} {exponent : Int} (scaled : Scale text exponent) :
    ∀ c ∈ text.head?, isPlainDigit c = false :=
  scaled.isExponent.stops isPlainDigit_of_mem_marks

theorem scale_cons_iff {letter : Char} {rest : List Char} {exponent : Int} :
    Scale (letter :: rest) exponent ↔ (letter = 'e' ∨ letter = 'E') ∧
      (splitSign rest).2 ≠ [] ∧ (∀ c ∈ (splitSign rest).2, isPlainDigit c = true) ∧
        exponent = if (splitSign rest).1 then -(digitsValue (splitSign rest).2 : Int)
          else digitsValue (splitSign rest).2 := by
  constructor
  · rintro (_ | @⟨letter, sign, digits, negative, known, signed, nonempty, all⟩)
    have split : splitSign (sign ++ digits) = (negative, digits) := signed.split fun c first =>
      unsigned_of_digit isPlainDigit_of_mem_marks (all c (List.mem_of_mem_head? first))
    rw [split]
    exact ⟨known, nonempty, all, rfl⟩
  · rintro ⟨known, nonempty, all, rfl⟩
    obtain ⟨sign, signed, same⟩ := exists_sign rest
    generalize splitSign rest = split at signed same nonempty all ⊢
    rw [same]
    exact .present known signed nonempty all

/-- Behind its digits a numeral ends, or has an exponent. -/
theorem scale_iff {rest whole fraction : List Char} {parts : DecimalParts} :
    (match rest with
      | [] => some ⟨whole, fraction, 0⟩
      | mark :: rest =>
          if mark == 'e' || mark == 'E' then
            let (negative, digits) := splitSign rest
            if digits.isEmpty || !digits.all isPlainDigit then none
            else
              let size : Int := digitsValue digits
              some ⟨whole, fraction, if negative then -size else size⟩
          else none) = some parts ↔
      ∃ exponent, Scale rest exponent ∧ parts = ⟨whole, fraction, exponent⟩ := by
  constructor
  · intro found
    split at found
    next =>
      cases found
      exact ⟨0, .absent, rfl⟩
    next letter rest =>
      split at found
      next known =>
        dsimp only at found
        split at found
        next => cases found
        next right =>
          cases found
          rw [Bool.or_eq_true, Bool.not_eq_true', List.all_eq_false, not_or] at right
          have all : ∀ c ∈ (splitSign rest).2, isPlainDigit c = true := by simpa using right.2
          have nonempty : (splitSign rest).2 ≠ [] := by simpa using right.1
          exact ⟨_, scale_cons_iff.2 ⟨by simpa using known, nonempty, all, rfl⟩, rfl⟩
      next => cases found
  · rintro ⟨exponent, scaled, rfl⟩
    cases rest with
    | nil =>
        cases scaled
        rfl
    | cons letter rest =>
        obtain ⟨known, nonempty, all, rfl⟩ := scale_cons_iff.1 scaled
        have marked : (letter == 'e' || letter == 'E') = true := by simpa using known
        have right : ((splitSign rest).2.isEmpty ||
            !(splitSign rest).2.all isPlainDigit) = false := by
          simpa [List.isEmpty_eq_false_iff] using ⟨nonempty, all⟩
        simp only [marked, right, if_true, Bool.false_eq_true, if_false]

/-- The parts of a numeral are found by its longest runs of digits. -/
theorem splits_of_decimalParts? {text : List Char} {parts : DecimalParts}
    (found : decimalParts? text = some parts) : Splits text parts := by
  have split := List.takeWhile_append_dropWhile (p := isPlainDigit) (l := text)
  have digits : ∀ c ∈ text.takeWhile isPlainDigit, isPlainDigit c = true :=
    digit_of_mem_takeWhile text
  unfold decimalParts? at found
  extract_lets whole at found
  split at found
  rename_i fraction rest parted
  split at found
  next => cases found
  next filled =>
    obtain ⟨exponent, scaled, rfl⟩ := scale_iff.1 found
    have nonempty : whole ++ fraction ≠ [] := by simpa using filled
    split at parted
    next behind dropped =>
      cases parted
      have shape : text = whole ++ '.' ::
          (behind.takeWhile isPlainDigit ++ behind.dropWhile isPlainDigit) := by
        rw [List.takeWhile_append_dropWhile, ← dropped, split]
      rw [shape]
      refine .pointed nonempty (fun c among => ?_) scaled
      obtain inWhole | inFraction := List.mem_append.1 among
      · exact digits c inWhole
      · exact digit_of_mem_takeWhile behind c inFraction
    next =>
      cases parted
      rw [List.append_nil] at nonempty
      rw [← split]
      exact .whole nonempty digits scaled

theorem Splits.decimalParts?_eq {text : List Char} {parts : DecimalParts}
    (splits : Splits text parts) : decimalParts? text = some parts := by
  cases splits with
  | @whole whole scale exponent nonempty digits scaled =>
      obtain ⟨taken, dropped⟩ := span_run digits scaled.stops
      unfold decimalParts?
      simp only [taken, dropped]
      split
      next behind =>
        obtain ⟨known, -⟩ := scale_cons_iff.1 scaled
        simp at known
      next =>
        rw [if_neg (by simpa using nonempty)]
        exact scale_iff.2 ⟨exponent, scaled, rfl⟩
  | @pointed whole fraction scale exponent nonempty digits scaled =>
      have stops : ∀ c ∈ ('.' :: (fraction ++ scale)).head?, isPlainDigit c = false :=
        fun c first => Option.some.inj first ▸ rfl
      obtain ⟨taken, dropped⟩ :=
        span_run (fun c among => digits c (List.mem_append_left _ among)) stops
      obtain ⟨taken', dropped'⟩ := span_run
        (fun c among => digits c (List.mem_append_right _ among)) scaled.stops
      unfold decimalParts?
      simp only [taken, dropped, taken', dropped']
      rw [if_neg (by simpa using nonempty)]
      exact scale_iff.2 ⟨exponent, scaled, rfl⟩

/-! ### Reading floats -/

/-- The names of special values begin with letters that no numeral begins with. -/
def nameStarts : List Char := ['i', 'n']

theorem lower_not_mem_nameStarts {c : Char}
    (numeral : isPlainDigit c = true ∨ c ∈ ['.', '+', '-']) : plainLower c ∉ nameStarts := by
  have others : ∀ c ∈ "0123456789.+-".toList, plainLower c ∉ nameStarts :=
    List.all_iff_forall_prop.1 (by decide)
  refine others c ?_
  obtain digit | mark := numeral
  · exact List.mem_append_left ['.', '+', '-'] (Spelling.mem_digits digit)
  · exact List.mem_append_right "0123456789".toList mark

/-- The names of special values, in lower case. -/
def names : List (List Char) := "nan".toList :: infinityNames

theorem exists_nameStart {name : List Char} (named : name.map plainLower ∈ names) :
    ∃ c rest, name = c :: rest ∧ plainLower c ∈ nameStarts := by
  have starts : ∀ word ∈ names, word.head?.any (nameStarts.contains ·) = true := by decide
  obtain ⟨letter, first, start⟩ := (Option.any_eq_true ..).1 (starts _ named)
  rw [List.contains_iff_mem] at start
  cases name with
  | nil => cases first
  | cons c rest =>
      obtain rfl : plainLower c = letter := Option.some.inj first
      exact ⟨c, rest, rfl, start⟩

theorem unsigned_of_names {name : List Char} (named : name.map plainLower ∈ names) :
    ∀ c ∈ name.head?, c ≠ '+' ∧ c ≠ '-' := by
  obtain ⟨c, rest, rfl, start⟩ := exists_nameStart named
  intro d first
  obtain rfl : c = d := Option.some.inj first
  constructor <;> rintro rfl <;> exact lower_not_mem_nameStarts (.inr (by decide)) start

theorem Splits.isFinite {text : List Char} {parts : DecimalParts} (splits : Splits text parts) :
    IsFinite isPlainDigit text := by
  cases splits with
  | whole nonempty digits scaled => exact .whole nonempty digits scaled.isExponent
  | pointed nonempty digits scaled => exact .pointed nonempty digits scaled.isExponent

theorem Splits.first {text : List Char} {parts : DecimalParts} (splits : Splits text parts) :
    ∀ c ∈ text.head?, isPlainDigit c = true ∨ c ∈ ['.', '+', '-'] := by
  intro c first
  cases splits with
  | @whole whole _ _ nonempty digits scaled =>
      obtain ⟨d, rest, rfl⟩ := List.exists_cons_of_ne_nil nonempty
      obtain rfl : d = c := Option.some.inj first
      exact .inl (digits d List.mem_cons_self)
  | @pointed whole _ _ _ nonempty digits scaled =>
      cases whole with
      | nil =>
          obtain rfl : '.' = c := Option.some.inj first
          exact .inr (by decide)
      | cons d rest =>
          obtain rfl : d = c := Option.some.inj first
          exact .inl (digits d List.mem_cons_self)

theorem Splits.not_mem_names {text : List Char} {parts : DecimalParts}
    (splits : Splits text parts) : text.map plainLower ∉ names := by
  intro named
  obtain ⟨c, rest, rfl, start⟩ := exists_nameStart named
  exact lower_not_mem_nameStarts (splits.first c rfl) start

theorem ofList_beq_iff {chars : List Char} {name : String} :
    (String.ofList chars == name) = true ↔ chars = name.toList := by
  rw [beq_iff_eq]
  constructor
  · rintro rfl
    rw [String.toList_ofList]
  · rintro rfl
    rw [String.ofList_toList]

/-- Names of special values are told from numerals, behind the sign of either. -/
theorem plainFloat?_eq_some_iff {text : List Char} {x : Float} :
    plainFloat? text = some x ↔ Writes text x := by
  constructor
  · intro found
    obtain ⟨sign, signed, same⟩ := exists_sign text
    unfold plainFloat? at found
    generalize splitSign text = parts at found signed same
    rw [same]
    dsimp only at found
    split at found
    next infinite =>
      obtain rfl := Option.some.inj found
      refine .infinity signed ?_
      rw [Bool.or_eq_true, ofList_beq_iff, ofList_beq_iff] at infinite
      simpa [infinityNames] using infinite
    next =>
      split at found
      next special =>
        obtain rfl := Option.some.inj found
        exact .notANumber signed (ofList_beq_iff.1 special)
      next =>
        obtain ⟨parts, splits, found⟩ := Option.bind_eq_some_iff.1 found
        obtain rfl := Option.some.inj found
        exact .finite signed (splits_of_decimalParts? splits)
  · intro writes
    unfold plainFloat?
    cases writes with
    | infinity signed named =>
        rw [signed.split (unsigned_of_names (List.mem_cons_of_mem _ named))]
        have infinite := named
        simp only [infinityNames, List.mem_cons, List.not_mem_nil, or_false, ← ofList_beq_iff,
          ← Bool.or_eq_true] at infinite
        dsimp only
        rw [if_pos infinite]
        rfl
    | notANumber signed named =>
        rw [signed.split (unsigned_of_names (by rw [named]; exact List.mem_cons_self))]
        simp only [named]
        rfl
    | @finite _ text _ _ _ _ signed splits =>
        have other (name : String) (among : name.toList ∈ names) :
            ¬ (String.ofList (text.map plainLower) == name) = true := by
          rw [ofList_beq_iff]
          rintro same
          exact splits.not_mem_names (same ▸ among)
        rw [signed.split (splits.isFinite.unsigned isPlainDigit_of_mem_marks)]
        simp only [other "inf" (by decide), other "infinity" (by decide), other "nan" (by decide),
          splits.decimalParts?_eq, Bool.or_self, Bool.false_eq_true, if_false]
        rfl

/-! ### Reading texts -/

/-- The character is no underscore and no blank. -/
def IsSolid (c : Char) : Prop := c ≠ '_' ∧ Text.isNumeralBlank c = false

theorem isSolid_of_isPlainDigit {c : Char} (digit : isPlainDigit c = true) : IsSolid c := by
  refine ⟨fun same => ?_, ?_⟩
  · subst same
    cases digit
  · rw [Text.isNumeralBlank, isBlank_of_isDigit (isDigit_of_isPlainDigit digit), Bool.false_and]

theorem isSolid_of_mem_marks {c : Char} (mark : c ∈ marks) : IsSolid c := by
  have all : ∀ c ∈ marks, (c != '_' && !Text.isNumeralBlank c) = true :=
    List.all_iff_forall_prop.1 (by decide)
  simpa [IsSolid] using all c mark

/-- The letters of special names are solid in either case. -/
theorem isSolid_of_lower {c : Char} (lower : plainLower c ∈ "infaty".toList) : IsSolid c := by
  by_cases capital : 'A' ≤ c ∧ c ≤ 'Z'
  · have least : 65 ≤ c.toNat := capital.1
    have most : c.toNat ≤ 90 := capital.2
    have all : ∀ n < 26,
        (Char.ofNat (65 + n) != '_' && !Text.isNumeralBlank (Char.ofNat (65 + n))) = true := by
      decide
    have here := all (c.toNat - 65) (by omega)
    rw [Nat.add_sub_cancel' least, Char.ofNat_toNat] at here
    simpa [IsSolid] using here
  · rw [plainLower, if_neg capital] at lower
    have all : ∀ c ∈ "infaty".toList, (c != '_' && !Text.isNumeralBlank c) = true :=
      List.all_iff_forall_prop.1 (by decide)
    simpa [IsSolid] using all c lower

theorem isSolid_of_names {name : List Char} (named : name.map plainLower ∈ names) :
    ∀ c ∈ name, IsSolid c := by
  have letters : ∀ word ∈ names, word ⊆ "infaty".toList := by decide
  exact fun c among => isSolid_of_lower (letters _ named (List.mem_map_of_mem among))

theorem Writes.isSolid {text : List Char} {x : Float} (writes : Writes text x) :
    ∀ c ∈ text, IsSolid c := by
  have behind {sign rest : List Char} {negative : Bool} (signed : Sign sign negative)
      (solid : ∀ c ∈ rest, IsSolid c) : ∀ c ∈ sign ++ rest, IsSolid c :=
    List.forall_mem_append.2
      ⟨fun c among => isSolid_of_mem_marks (mem_marks_of_sign signed.isSign among), solid⟩
  cases writes with
  | infinity signed named => exact behind signed (isSolid_of_names (List.mem_cons_of_mem _ named))
  | notANumber signed named =>
      exact behind signed (isSolid_of_names (by rw [named]; exact List.mem_cons_self))
  | finite signed splits =>
      exact behind signed fun c among =>
        (splits.isFinite.mem among).elim isSolid_of_isPlainDigit isSolid_of_mem_marks

theorem withoutUnderscores?_eq_some_iff {text plain : List Char} :
    withoutUnderscores? text = some plain ↔ (text.head? ≠ some '_' ∧ text.getLast? ≠ some '_' ∧
      Separated text) ∧ text.filter (· != '_') = plain := by
  have apart : (text.zip text.tail).any (fun pair => pair.1 == '_' && pair.2 == '_') = true ↔
      ¬ Separated text := by
    simp [Separated]
  unfold withoutUnderscores?
  dsimp only
  split
  next bad =>
    rw [Bool.or_eq_true, Bool.or_eq_true, beq_iff_eq, beq_iff_eq, apart] at bad
    constructor
    · intro same
      cases same
    · rintro ⟨⟨first, last, separated⟩, -⟩
      exact (bad.elim (·.elim first last) fun mixed => mixed separated).elim
  next good =>
    rw [Bool.or_eq_true, Bool.or_eq_true, beq_iff_eq, beq_iff_eq, apart, not_or, not_or,
      Classical.not_not] at good
    rw [Option.some.injEq]
    exact ⟨fun same => ⟨⟨good.1.1, good.1.2, good.2⟩, same⟩, And.right⟩

/-- Blanks around a numeral are dropped, or else underscores inside it. Where both could be done,
there are none of either. -/
theorem textFloat?_eq_some_iff {text : List Char} {x : Float} :
    textFloat? text = some x ↔
      (∃ front numeral back, text = front ++ (numeral ++ back) ∧
        (∀ c ∈ front, Text.isNumeralBlank c = true) ∧ (∀ c ∈ back, Text.isNumeralBlank c = true) ∧
        Writes numeral x) ∨
      (text.head? ≠ some '_' ∧ text.getLast? ≠ some '_' ∧ Separated text) ∧
        Writes (text.filter (· != '_')) x := by
  unfold textFloat?
  constructor
  · intro found
    cases trimmed : plainFloat? (Text.trimBoth Text.isNumeralBlank text) with
    | some y =>
        rw [trimmed] at found
        obtain rfl : y = x := Option.some.inj found
        obtain ⟨front, back, before, behind, same⟩ := Text.exists_trimBoth Text.isNumeralBlank text
        exact .inl ⟨front, _, back, same, before, behind, plainFloat?_eq_some_iff.1 trimmed⟩
    | none =>
        rw [trimmed] at found
        obtain ⟨plain, dropped, found⟩ := Option.bind_eq_some_iff.1 found
        obtain ⟨fits, rfl⟩ := withoutUnderscores?_eq_some_iff.1 dropped
        exact .inr ⟨fits, plainFloat?_eq_some_iff.1 found⟩
  · rintro (⟨front, numeral, back, rfl, before, behind, writes⟩ | ⟨fits, writes⟩)
    · rw [Text.trimBoth_surrounded before (fun c among => (writes.isSolid c among).2) behind,
        plainFloat?_eq_some_iff.2 writes]
      rfl
    · have solid : ∀ c ∈ text, Text.isNumeralBlank c = false := by
        intro c among
        by_cases score : c = '_'
        · subst score
          decide
        · exact (writes.isSolid c (List.mem_filter.2 ⟨among, by simpa using score⟩)).2
      rw [Text.trimBoth_eq_self solid]
      cases whole : plainFloat? text with
      | some y =>
          have none : text.filter (· != '_') = text := List.filter_eq_self.2 fun c among => by
            simpa using ((plainFloat?_eq_some_iff.1 whole).isSolid c among).1
          rw [none, ← plainFloat?_eq_some_iff, whole] at writes
          exact writes
      | none =>
          have dropped := withoutUnderscores?_eq_some_iff.2 ⟨fits, rfl⟩
          rw [dropped]
          exact plainFloat?_eq_some_iff.2 writes

-- Blanks or underscores may stand in a numeral, but not both.
example :
    textFloat? "2.5".toList = some 2.5 ∧ textFloat? " +0.25E1\n".toList = some 2.5 ∧
      textFloat? "2_5e-1".toList = some 2.5 ∧ textFloat? " 2_5e-1".toList = none := by
  decide +kernel

theorem toFloat_text_iff {document : Document} {text : String} {x : Float}
    (isText : document.text? = some text) :
    toFloat document = .ok x ↔ textFloat? text.toList = some x := by
  cases document with
  | text value =>
      cases isText
      simp only [toFloat, Document.text?]
      cases textFloat? text.toList <;> simp
  | guarded value =>
      cases isText
      simp only [toFloat, Document.text?]
      cases textFloat? text.toList <;> simp
  | _ => cases isText

/-- **What stands for a number of seconds.** A document is read as the float that it stands for. -/
theorem standsFor_iff {document : Document} {x : Float} :
    StandsFor document x ↔ toFloat document = .ok x := by
  constructor
  · intro stands
    cases stands with
    | float x => rfl
    | truth b => rfl
    | int nearest => simp only [toFloat, nearest]
    | surrounded isText before behind writes =>
        rw [toFloat_text_iff isText, String.toList_ofList, textFloat?_eq_some_iff]
        exact .inl ⟨_, _, _, rfl, before, behind, writes⟩
    | grouped isText first last apart writes =>
        rw [toFloat_text_iff isText, textFloat?_eq_some_iff]
        exact .inr ⟨⟨first, last, apart⟩, writes⟩
  · intro read
    have ofText (text : String) (isText : document.text? = some text) : StandsFor document x := by
      obtain ⟨front, numeral, back, same, before, behind, writes⟩ |
          ⟨⟨first, last, apart⟩, writes⟩ :=
        textFloat?_eq_some_iff.1 ((toFloat_text_iff isText).1 read)
      · refine .surrounded ?_ before behind writes
        rw [isText, ← same, String.ofList_toList]
      · exact .grouped isText first last apart writes
    cases document with
    | text value => exact ofText value rfl
    | guarded value => exact ofText value rfl
    | float y =>
        obtain rfl := Except.ok.inj read
        exact .float y
    | bool b =>
        obtain rfl := Except.ok.inj read
        exact .truth b
    | int i =>
        cases nearest : ofInt? i with
        | some y =>
            simp only [toFloat, nearest] at read
            obtain rfl := Except.ok.inj read
            exact .int nearest
        | none =>
            simp only [toFloat, nearest] at read
            cases read
    | _ => cases read

end AccessRules.Settings
