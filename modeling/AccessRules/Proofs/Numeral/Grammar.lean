import AccessRules.Number.Read
import Mathlib.Data.Bool.AllAny

/-!
# The grammar of numerals

Numerals are read in two ways: as attribute values that are numbers to every client, and as floats.
Both ways follow one grammar, which leaves open what counts as a digit and what as a blank: digits
with a point among them or not, an exponent, a sign, and blanks around it all.

* `IsFinite`, `IsMagnitude`, `IsDecimal`: the grammar, without a sign, with `Infinity`, and with
  sign and blanks;
* **`isPlainNumeral_iff`**: the numerals for every client are those of the grammar whose digits are
  those of any script and whose blanks are all blank characters;
* `decimalParts?_isSome_iff`: the texts that split into decimal parts are those of the grammar with
  plain digits and without sign and blanks.
-/

namespace AccessRules.Numeral

open AccessRules.Number AccessRules.Text

/-! ### The grammar -/

/-- A sign, or none. -/
def IsSign (text : List Char) : Prop := text = [] ∨ text = ['+'] ∨ text = ['-']

section

variable (digit blank : Char → Bool)

/-- Nothing, or an exponent: its letter, a sign, and digits. -/
inductive IsExponent : List Char → Prop where
  | absent : IsExponent []
  | present {letter : Char} {sign digits : List Char} (known : letter = 'e' ∨ letter = 'E')
      (signed : IsSign sign) (nonempty : digits ≠ []) (all : ∀ c ∈ digits, digit c = true) :
      IsExponent (letter :: (sign ++ digits))

/-- Digits with an exponent, or with a point that has digits on one of its sides at least. -/
inductive IsFinite : List Char → Prop where
  | whole {whole exponent : List Char} (nonempty : whole ≠ [])
      (digits : ∀ c ∈ whole, digit c = true) (scaled : IsExponent digit exponent) :
      IsFinite (whole ++ exponent)
  | pointed {whole fraction exponent : List Char} (nonempty : whole ++ fraction ≠ [])
      (digits : ∀ c ∈ whole ++ fraction, digit c = true) (scaled : IsExponent digit exponent) :
      IsFinite (whole ++ '.' :: (fraction ++ exponent))

/-- A numeral without sign and blanks. -/
inductive IsMagnitude : List Char → Prop where
  | infinity : IsMagnitude "Infinity".toList
  | finite {text : List Char} (finite : IsFinite digit text) : IsMagnitude text

/-- A numeral with a sign or none, and blanks on both sides or none. -/
inductive IsDecimal : List Char → Prop where
  | surrounded {front sign magnitude back : List Char} (before : ∀ c ∈ front, blank c = true)
      (signed : IsSign sign) (sized : IsMagnitude digit magnitude)
      (behind : ∀ c ∈ back, blank c = true) : IsDecimal (front ++ (sign ++ magnitude ++ back))

end

/-- The characters of numerals besides digits and blanks. -/
def marks : List Char := "+-.eEInfity".toList

theorem mem_marks_of_sign {sign : List Char} (signed : IsSign sign) {c : Char} (among : c ∈ sign) :
    c ∈ marks := by
  obtain rfl | rfl | rfl := signed
  · cases among
  · obtain rfl := List.mem_singleton.1 among
    decide
  · obtain rfl := List.mem_singleton.1 among
    decide

theorem mem_marks_of_infinity : ∀ c ∈ "Infinity".toList, c ∈ marks :=
  List.all_iff_forall_prop.1 (by decide)

/-! ### The characters of numerals -/

section

variable {digit : Char → Bool}

theorem IsExponent.mem {text : List Char} (scaled : IsExponent digit text) {c : Char}
    (among : c ∈ text) : digit c = true ∨ c ∈ marks := by
  cases scaled with
  | absent => cases among
  | present known signed nonempty all =>
      obtain rfl | rest := List.mem_cons.1 among
      · obtain rfl | rfl := known <;> exact Or.inr (by decide)
      · obtain inSign | inDigits := List.mem_append.1 rest
        · exact Or.inr (mem_marks_of_sign signed inSign)
        · exact Or.inl (all c inDigits)

theorem IsFinite.mem {text : List Char} (finite : IsFinite digit text) {c : Char}
    (among : c ∈ text) : digit c = true ∨ c ∈ marks := by
  cases finite with
  | whole nonempty digits scaled =>
      obtain inWhole | inExponent := List.mem_append.1 among
      · exact Or.inl (digits c inWhole)
      · exact scaled.mem inExponent
  | pointed nonempty digits scaled =>
      simp only [List.mem_append, List.mem_cons] at among
      obtain inWhole | rfl | inFraction | inExponent := among
      · exact Or.inl (digits c (List.mem_append_left _ inWhole))
      · exact Or.inr (by decide)
      · exact Or.inl (digits c (List.mem_append_right _ inFraction))
      · exact scaled.mem inExponent

theorem IsMagnitude.mem {text : List Char} (sized : IsMagnitude digit text) {c : Char}
    (among : c ∈ text) : digit c = true ∨ c ∈ marks := by
  cases sized with
  | infinity =>
      exact Or.inr (mem_marks_of_infinity c among)
  | finite finite => exact finite.mem among

theorem IsDecimal.mem {blank : Char → Bool} {text : List Char}
    (decimal : IsDecimal digit blank text) {c : Char} (among : c ∈ text) :
    blank c = true ∨ digit c = true ∨ c ∈ marks := by
  cases decimal with
  | surrounded before signed sized behind =>
      simp only [List.mem_append] at among
      obtain inFront | (inSign | inMagnitude) | inBack := among
      · exact Or.inl (before c inFront)
      · exact Or.inr (Or.inr (mem_marks_of_sign signed inSign))
      · exact Or.inr (sized.mem inMagnitude)
      · exact Or.inl (behind c inBack)

end

/-! ### Other digits and blanks -/

section

variable {digit digit' : Char → Bool} {change : Char → Char}

theorem IsSign.map {sign : List Char} (signed : IsSign sign) (fixed : ∀ c ∈ marks, change c = c) :
    sign.map change = sign := by
  have same : sign.map change = sign.map id := List.map_congr_left fun c among =>
    fixed c (mem_marks_of_sign signed among)
  rw [same, List.map_id]

theorem IsExponent.map {text : List Char} (scaled : IsExponent digit text)
    (fixed : ∀ c ∈ marks, change c = c)
    (carried : ∀ c ∈ text, digit c = true → digit' (change c) = true) :
    IsExponent digit' (text.map change) := by
  cases scaled with
  | absent => exact .absent
  | @present letter sign digits known signed nonempty all =>
      have same : change letter = letter := by
        obtain rfl | rfl := known <;> exact fixed _ (by decide)
      rw [List.map_cons, List.map_append, same, signed.map fixed]
      refine .present known signed (mt List.map_eq_nil_iff.1 nonempty) (List.forall_mem_map.2 ?_)
      intro c among
      exact carried c (List.mem_cons_of_mem _ (List.mem_append_right _ among)) (all c among)

theorem IsFinite.map {text : List Char} (finite : IsFinite digit text)
    (fixed : ∀ c ∈ marks, change c = c)
    (carried : ∀ c ∈ text, digit c = true → digit' (change c) = true) :
    IsFinite digit' (text.map change) := by
  cases finite with
  | @whole whole exponent nonempty digits scaled =>
      rw [List.map_append]
      refine .whole (mt List.map_eq_nil_iff.1 nonempty) (List.forall_mem_map.2 ?_) ?_
      · intro c among
        exact carried c (List.mem_append_left _ among) (digits c among)
      · exact scaled.map fixed fun c among => carried c (List.mem_append_right _ among)
  | @pointed whole fraction exponent nonempty digits scaled =>
      rw [List.map_append, List.map_cons, List.map_append, fixed '.' (by decide)]
      refine .pointed ?_ ?_ ?_
      · rw [← List.map_append]
        exact mt List.map_eq_nil_iff.1 nonempty
      · rw [← List.map_append, List.forall_mem_map]
        intro c among
        refine carried c ?_ (digits c among)
        simp only [List.mem_append, List.mem_cons] at among ⊢
        exact among.imp_right fun inFraction => Or.inr (Or.inl inFraction)
      · refine scaled.map fixed fun c among => carried c ?_
        simp only [List.mem_append, List.mem_cons]
        exact Or.inr (Or.inr (Or.inr among))

theorem IsMagnitude.map {text : List Char} (sized : IsMagnitude digit text)
    (fixed : ∀ c ∈ marks, change c = c)
    (carried : ∀ c ∈ text, digit c = true → digit' (change c) = true) :
    IsMagnitude digit' (text.map change) := by
  cases sized with
  | infinity =>
      have same : "Infinity".toList.map change = "Infinity".toList.map id :=
        List.map_congr_left fun c among => fixed c (mem_marks_of_infinity c among)
      rw [same, List.map_id]
      exact .infinity
  | finite finite => exact .finite (finite.map fixed carried)

/-- A numeral is one with any other digits and blanks that take in those it has. -/
theorem IsDecimal.mono {blank blank' : Char → Bool} {text : List Char}
    (decimal : IsDecimal digit blank text)
    (digits : ∀ c ∈ text, digit c = true → digit' c = true)
    (blanks : ∀ c ∈ text, blank c = true → blank' c = true) : IsDecimal digit' blank' text := by
  cases decimal with
  | @surrounded front sign magnitude back before signed sized behind =>
      have kept : IsMagnitude digit' (magnitude.map id) := by
        refine sized.map (fun _ _ => rfl) fun c among => digits c ?_
        simp only [List.mem_append]
        exact Or.inr (Or.inl (Or.inr among))
      rw [List.map_id] at kept
      refine .surrounded (fun c among => blanks c ?_ (before c among)) signed kept
        fun c among => blanks c ?_ (behind c among)
      · exact List.mem_append_left _ among
      · exact List.mem_append_right _ (List.mem_append_right _ among)

end

/-! ### Runs of digits -/

section

variable {digit : Char → Bool}

/-- A run of digits ends where what follows begins with none. -/
theorem span_run {run rest : List Char} (all : ∀ c ∈ run, digit c = true)
    (stops : ∀ c ∈ rest.head?, digit c = false) :
    (run ++ rest).takeWhile digit = run ∧ (run ++ rest).dropWhile digit = rest := by
  rw [List.takeWhile_append_of_pos all, List.dropWhile_append_of_pos all]
  cases rest with
  | nil => exact ⟨List.append_nil _, rfl⟩
  | cons c rest =>
      have other : ¬ digit c = true := Bool.eq_false_iff.1 (stops c rfl)
      rw [List.takeWhile_cons_of_neg other, List.dropWhile_cons_of_neg other]
      exact ⟨List.append_nil _, rfl⟩

theorem IsExponent.stops {text : List Char} (other : ∀ c ∈ marks, digit c = false)
    (scaled : IsExponent digit text) : ∀ c ∈ text.head?, digit c = false := by
  cases scaled with
  | absent => exact fun c first => nomatch first
  | present known signed nonempty all =>
      intro c first
      obtain rfl := Option.some.inj first
      obtain rfl | rfl := known <;> exact other _ (by decide)

theorem digit_of_mem_takeWhile (text : List Char) : ∀ c ∈ text.takeWhile digit, digit c = true :=
  List.all_eq_true.1 List.all_takeWhile

/-- Numerals without signs are told by their longest runs of digits. -/
theorem isFinite_iff (other : ∀ c ∈ marks, digit c = false) (text : List Char) :
    IsFinite digit text ↔
      (text.takeWhile digit ≠ [] ∧ IsExponent digit (text.dropWhile digit)) ∨
      ∃ rest, text.dropWhile digit = '.' :: rest ∧
        text.takeWhile digit ++ rest.takeWhile digit ≠ [] ∧
        IsExponent digit (rest.dropWhile digit) := by
  constructor
  · rintro (⟨nonempty, digits, scaled⟩ | ⟨nonempty, digits, scaled⟩)
    · obtain ⟨taken, dropped⟩ := span_run digits (scaled.stops other)
      rw [taken, dropped]
      exact Or.inl ⟨nonempty, scaled⟩
    · rename_i whole fraction exponent
      have stops : ∀ c ∈ ('.' :: (fraction ++ exponent)).head?, digit c = false :=
        fun c first => Option.some.inj first ▸ other '.' (by decide)
      obtain ⟨taken, dropped⟩ :=
        span_run (fun c among => digits c (List.mem_append_left _ among)) stops
      obtain ⟨taken', dropped'⟩ := span_run
        (fun c among => digits c (List.mem_append_right _ among)) (scaled.stops other)
      rw [taken, dropped]
      refine Or.inr ⟨_, rfl, ?_, ?_⟩
      · rwa [taken']
      · rwa [dropped']
  · have split := List.takeWhile_append_dropWhile (p := digit) (l := text)
    rintro (⟨nonempty, scaled⟩ | ⟨rest, dropped, nonempty, scaled⟩)
    · rw [← split]
      exact .whole nonempty (digit_of_mem_takeWhile text) scaled
    · rw [← split, dropped, ← List.takeWhile_append_dropWhile (p := digit) (l := rest)]
      refine .pointed nonempty (fun c among => ?_) scaled
      obtain inWhole | inFraction := List.mem_append.1 among
      · exact digit_of_mem_takeWhile text c inWhole
      · exact digit_of_mem_takeWhile rest c inFraction

/-- Digits with a point behind them are a numeral with what follows the point. -/
theorem isFinite_iff_of_point (other : ∀ c ∈ marks, digit c = false) {text rest : List Char}
    (dropped : text.dropWhile digit = '.' :: rest) :
    IsFinite digit text ↔ text.takeWhile digit ++ rest.takeWhile digit ≠ [] ∧
      IsExponent digit (rest.dropWhile digit) := by
  rw [isFinite_iff other, dropped]
  constructor
  · rintro (⟨-, scaled⟩ | ⟨rest, same, finite⟩)
    · cases scaled with
      | present known => simp at known
    · cases same
      exact finite
  · exact fun finite => Or.inr ⟨rest, rfl, finite⟩

/-- Digits without a point behind them are a numeral with an exponent only. -/
theorem isFinite_iff_of_no_point (other : ∀ c ∈ marks, digit c = false) {text : List Char}
    (noPoint : ∀ rest, text.dropWhile digit ≠ '.' :: rest) :
    IsFinite digit text ↔
      text.takeWhile digit ≠ [] ∧ IsExponent digit (text.dropWhile digit) := by
  rw [isFinite_iff other]
  exact or_iff_left fun ⟨rest, dropped, _⟩ => noPoint rest dropped

/-! ### Signs -/

theorem exists_splitSign (text : List Char) :
    ∃ sign, IsSign sign ∧ text = sign ++ (splitSign text).2 := by
  unfold splitSign
  split
  · exact ⟨['-'], Or.inr (Or.inr rfl), rfl⟩
  · exact ⟨['+'], Or.inr (Or.inl rfl), rfl⟩
  · exact ⟨[], Or.inl rfl, rfl⟩

theorem splitSign_sublist (text : List Char) : (splitSign text).2.Sublist text := by
  unfold splitSign
  split
  · exact List.sublist_cons_self '-' _
  · exact List.sublist_cons_self '+' _
  · exact List.Sublist.refl text

theorem splitSign_append {sign text : List Char} (signed : IsSign sign)
    (unsigned : ∀ c ∈ text.head?, c ≠ '+' ∧ c ≠ '-') : (splitSign (sign ++ text)).2 = text := by
  obtain rfl | rfl | rfl := signed
  · rw [List.nil_append]
    unfold splitSign
    split
    · exact absurd rfl (unsigned '-' rfl).2
    · exact absurd rfl (unsigned '+' rfl).1
    · rfl
  · rfl
  · rfl

/-- A digit is no sign. -/
theorem unsigned_of_digit (other : ∀ c ∈ marks, digit c = false) {c : Char}
    (isDigit : digit c = true) : c ≠ '+' ∧ c ≠ '-' := by
  constructor <;> rintro rfl
  · exact absurd isDigit (Bool.eq_false_iff.1 (other '+' (by decide)))
  · exact absurd isDigit (Bool.eq_false_iff.1 (other '-' (by decide)))

theorem IsFinite.unsigned (other : ∀ c ∈ marks, digit c = false) {text : List Char}
    (finite : IsFinite digit text) : ∀ c ∈ text.head?, c ≠ '+' ∧ c ≠ '-' := by
  intro c first
  cases finite with
  | @whole whole exponent nonempty digits scaled =>
      cases whole with
      | nil => exact absurd rfl nonempty
      | cons d rest => exact unsigned_of_digit other (digits c (by simp_all))
  | @pointed whole fraction exponent nonempty digits scaled =>
      cases whole with
      | nil =>
          obtain rfl := Option.some.inj first
          decide
      | cons d rest => exact unsigned_of_digit other (digits c (by simp_all))

theorem IsMagnitude.unsigned (other : ∀ c ∈ marks, digit c = false) {text : List Char}
    (sized : IsMagnitude digit text) : ∀ c ∈ text.head?, c ≠ '+' ∧ c ≠ '-' := by
  cases sized with
  | infinity =>
      intro c first
      obtain rfl : 'I' = c := Option.some.inj first
      decide
  | finite finite => exact finite.unsigned other

theorem isExponent_cons_iff (other : ∀ c ∈ marks, digit c = false) (letter : Char)
    (rest : List Char) :
    IsExponent digit (letter :: rest) ↔ (letter = 'e' ∨ letter = 'E') ∧
      (splitSign rest).2 ≠ [] ∧ ∀ c ∈ (splitSign rest).2, digit c = true := by
  constructor
  · rintro (_ | @⟨letter, sign, digits, known, signed, nonempty, all⟩)
    have same : (splitSign (sign ++ digits)).2 = digits := splitSign_append signed fun c first =>
      unsigned_of_digit other (all c (List.mem_of_mem_head? first))
    rw [same]
    exact ⟨known, nonempty, all⟩
  · rintro ⟨known, nonempty, all⟩
    obtain ⟨sign, signed, split⟩ := exists_splitSign rest
    rw [split]
    exact .present known signed nonempty all

end

/-! ### Reading numerals without sign -/

theorem isDigit_of_mem_marks : ∀ c ∈ marks, isDigit c = false :=
  List.all_iff_forall_prop.1 (by decide)

theorem isPlainDigit_of_mem_marks : ∀ c ∈ marks, isPlainDigit c = false :=
  List.all_iff_forall_prop.1 (by decide)

theorem isPlainExponent_iff (text : List Char) :
    isPlainExponent text = true ↔ IsExponent isDigit text := by
  cases text with
  | nil => exact iff_of_true rfl .absent
  | cons letter rest =>
      rw [isExponent_cons_iff isDigit_of_mem_marks]
      simp [isPlainExponent]

theorem isUnsignedPlainNumeral_iff (text : List Char) :
    isUnsignedPlainNumeral text = true ↔ IsMagnitude isDigit text := by
  unfold isUnsignedPlainNumeral
  split
  next infinity =>
    rw [beq_iff_eq.1 infinity]
    exact iff_of_true rfl .infinity
  next other =>
    have finite : IsMagnitude isDigit text ↔ IsFinite isDigit text := by
      constructor
      · rintro (_ | finite)
        · exact absurd rfl other
        · exact finite
      · exact .finite
    rw [finite]
    split
    next rest taken dropped =>
      rw [isFinite_iff_of_point isDigit_of_mem_marks dropped, taken, ← isPlainExponent_iff]
      simp
    next taken noPoint =>
      rw [isFinite_iff_of_no_point isDigit_of_mem_marks fun rest => noPoint rest]
      simp [taken]
    next taken dropped =>
      rw [isFinite_iff_of_point isDigit_of_mem_marks dropped, taken, ← isPlainExponent_iff]
      simp
    next taken noPoint =>
      rw [isFinite_iff_of_no_point isDigit_of_mem_marks fun rest => noPoint rest, taken,
        ← isPlainExponent_iff]
      simp

theorem decimalParts?_isSome_iff (text : List Char) :
    (decimalParts? text).isSome = true ↔ IsFinite isPlainDigit text := by
  unfold decimalParts?
  split
  rename_i fraction rest parted
  have finite : IsFinite isPlainDigit text ↔ text.takeWhile isPlainDigit ++ fraction ≠ [] ∧
      IsExponent isPlainDigit rest := by
    split at parted
    next dropped =>
      cases parted
      exact isFinite_iff_of_point isPlainDigit_of_mem_marks dropped
    next noPoint =>
      cases parted
      rw [List.append_nil]
      exact isFinite_iff_of_no_point isPlainDigit_of_mem_marks fun rest => noPoint rest
  rw [finite]
  cases rest with
  | nil => simp [IsExponent.absent]
  | cons letter rest =>
      rw [isExponent_cons_iff isPlainDigit_of_mem_marks]
      simp only [Bool.and_eq_true, List.isEmpty_iff, Bool.or_eq_true, beq_iff_eq,
        Bool.not_eq_true', List.all_eq_false, ne_eq, List.append_eq_nil_iff]
      clear parted finite
      grind

/-! ### Digits and blanks -/

/-- A digit of any script lies in one of the runs of digits. -/
theorem exists_start_of_isDigit {c : Char} (digit : isDigit c = true) :
    ∃ start ∈ digitZeros, start ≤ c.toNat ∧ c.toNat < start + 10 := by
  unfold isDigit digitValue? at digit
  split at digit
  · split at digit
    next plain =>
      have inRange : 48 ≤ c.toNat ∧ c.toNat ≤ 57 := by simpa using plain
      exact ⟨0x30, by decide, by omega, by omega⟩
    next => cases digit
  · rw [Option.isSome_map, List.find?_isSome] at digit
    simpa using digit

/-- Ranges apart from all runs of digits hold no digit. -/
theorem contains_of_isDigit {ranges : Ranges}
    (apart : ∀ start ∈ digitZeros, ∀ range ∈ ranges, range.2 < start ∨ start + 10 ≤ range.1)
    {c : Char} (digit : isDigit c = true) : ranges.contains c = false := by
  obtain ⟨start, known, least, most⟩ := exists_start_of_isDigit digit
  rw [Ranges.contains, List.any_eq_false]
  intro range among
  have apart := apart start known range among
  simp only [Bool.and_eq_true, decide_eq_true_eq]
  omega

theorem isBlank_of_isDigit {c : Char} (digit : isDigit c = true) : isBlank c = false :=
  contains_of_isDigit (by decide) digit

/-! ### Numerals for every client -/

/-- The sign and the digits of a numeral are no blanks. -/
theorem solid_of_isMagnitude {digit blank : Char → Bool}
    (digits : ∀ c, digit c = true → blank c = false) (others : ∀ c ∈ marks, blank c = false)
    {sign magnitude : List Char} (signed : IsSign sign) (sized : IsMagnitude digit magnitude) :
    ∀ c ∈ sign ++ magnitude, blank c = false := by
  intro c among
  obtain inSign | inMagnitude := List.mem_append.1 among
  · exact others c (mem_marks_of_sign signed inSign)
  · exact (sized.mem inMagnitude).elim (digits c) (others c)

/-- **Numerals for every client.** A text counts as a number for every client when it is a numeral
with the digits of any script and with any blanks around it. -/
theorem isPlainNumeral_iff (text : List Char) :
    isPlainNumeral text = true ↔ IsDecimal isDigit isBlank text := by
  rw [isPlainNumeral, isUnsignedPlainNumeral_iff]
  constructor
  · intro sized
    obtain ⟨front, back, before, behind, split⟩ := exists_trimBoth isBlank text
    obtain ⟨sign, signed, signSplit⟩ := exists_splitSign (trim text)
    rw [trim] at signSplit sized
    rw [split, signSplit]
    exact .surrounded before signed sized behind
  · rintro ⟨before, signed, sized, behind⟩
    have marked : ∀ c ∈ marks, isBlank c = false := List.all_iff_forall_prop.1 (by decide)
    have solid := solid_of_isMagnitude (fun _ => isBlank_of_isDigit) marked signed sized
    rw [trim, trimBoth_surrounded before solid behind,
      splitSign_append signed (sized.unsigned isDigit_of_mem_marks)]
    exact sized

end AccessRules.Numeral
