import AccessRules.Response
import AccessRules.Proofs.Log.Line
import AccessRules.Proofs.Spelling.Quoted
import Mathlib.Algebra.Group.Nat.Defs
import Mathlib.Data.List.Induction

/-!
# Failures and events of one trace

A response to a report and an event that is logged meanwhile get the identifier of the trace in two
ways. Both write it as a numeral of thirty-two digits, and `HexNumeral` says what that is without
the function that writes it: how many digits there are, which digits, and what they come to. There
is just one such text for an identifier (`HexNumeral.unique`), and just one identifier for a text.

**`Response.joins_event`** is the join: the response and the event name the same trace or none.
-/

namespace AccessRules

namespace Text

/-! ### Hexadecimal numerals -/

/-- The characters of lowercase hexadecimal digits. -/
def lowerHex : List Char := "0123456789abcdef".toList

theorem hexNumber?_append (digits : List Char) (c : Char) :
    hexNumber? (digits ++ [c]) =
      (hexNumber? digits).bind fun value => (hexValue? c).map (value * 16 + ·) := by
  rw [hexNumber?, List.foldl_append]
  exact bind_congr fun value => bind_pure_comp _ _

theorem hexValue?_hexDigit {n : Nat} (small : n < 16) : hexValue? (hexDigit n) = some n := by
  have all : ∀ n < 16, hexValue? (hexDigit n) = some n := by decide
  exact all n small

theorem hexDigit_mem_lowerHex {n : Nat} (small : n < 16) : hexDigit n ∈ lowerHex := by
  have all : ∀ n < 16, hexDigit n ∈ lowerHex := by decide
  exact all n small

theorem hexDigit_of_hexValue? {c : Char} {value : Nat} (lower : c ∈ lowerHex)
    (digit : hexValue? c = some value) : hexDigit value = c := by
  have all : ∀ c ∈ lowerHex, (hexValue? c).map hexDigit = some c :=
    List.all_iff_forall_prop.1 (by decide)
  have back := all c lower
  rw [digit] at back
  exact Option.some.inj back

theorem mem_hexDigits {width n : Nat} {c : Char} (among : c ∈ hexDigits width n) :
    c ∈ lowerHex := by
  induction width generalizing n with
  | zero => cases among
  | succ width ih =>
      rcases List.mem_append.1 among with front | last
      · exact ih front
      · rw [List.mem_singleton.1 last]
        exact hexDigit_mem_lowerHex (Nat.mod_lt n (by decide))

theorem hexNumber?_hexDigits (width n : Nat) :
    hexNumber? (hexDigits width n) = some (n % 16 ^ width) := by
  induction width generalizing n with
  | zero => rw [Nat.pow_zero, Nat.mod_one]; rfl
  | succ width ih =>
      rw [hexDigits, hexNumber?_append, ih, hexValue?_hexDigit (Nat.mod_lt n (by decide)),
        Option.bind_some, Option.map_some, Nat.pow_succ', Nat.mod_mul, Nat.add_comm, Nat.mul_comm]

/-- Lowercase digits that come to a number are the digits of that number. -/
theorem eq_hexDigits {digits : List Char} {n : Nat} (lower : ∀ c ∈ digits, c ∈ lowerHex)
    (reads : hexNumber? digits = some n) : digits = hexDigits digits.length n := by
  induction digits using List.reverseRecOn generalizing n with
  | nil => rfl
  | append_singleton digits c ih =>
      rw [hexNumber?_append] at reads
      obtain ⟨front, readFront, reads⟩ := Option.bind_eq_some_iff.1 reads
      obtain ⟨last, readLast, rfl⟩ := Option.map_eq_some_iff.1 reads
      have small : last < 16 := (hexValue?_eq_some readLast).2
      have quotient : (front * 16 + last) / 16 = front := by omega
      have remainder : (front * 16 + last) % 16 = last := by omega
      have same := ih (fun d among => lower d (List.mem_append_left _ among)) readFront
      rw [List.length_append, List.length_singleton, hexDigits, quotient, remainder, ← same,
        hexDigit_of_hexValue? (lower c (by simp)) readLast]

/-! ### Padding -/

theorem lt_pow_hexLength (n : Nat) : n < 16 ^ hexLength n := by
  calc
    n < 2 ^ (n.log2 + 1) := Nat.lt_log2_self
    _ ≤ 2 ^ (4 * hexLength n) := Nat.pow_le_pow_right (by decide) (by rw [hexLength]; omega)
    _ = 16 ^ hexLength n := by rw [Nat.pow_mul]

theorem hexLength_le {width n : Nat} (wide : 0 < width) (small : n < 16 ^ width) :
    hexLength n ≤ width := by
  rw [hexLength]
  by_cases none : n = 0
  · rw [none, Nat.log2_zero]
    omega
  · have bits : n < 2 ^ (4 * width) := by rwa [Nat.pow_mul]
    have := (Nat.log2_lt none).2 bits
    omega

/-- However wide it is, a padded numeral reads back to its number. -/
theorem hexNumber?_paddedHex (width n : Nat) :
    hexNumber? (paddedHex width n).toList = some n := by
  have small : n < 16 ^ max width (hexLength n) :=
    Nat.lt_of_lt_of_le (lt_pow_hexLength n)
      (Nat.pow_le_pow_right (by decide) (Nat.le_max_right width (hexLength n)))
  rw [paddedHex, String.toList_ofList, hexNumber?_hexDigits, Nat.mod_eq_of_lt small]

/-- The text is the lowercase hexadecimal numeral of a number, zeros in front included. -/
structure HexNumeral (width n : Nat) (text : String) : Prop where
  length : text.toList.length = width
  lower : ∀ c ∈ text.toList, c ∈ lowerHex
  reads : hexNumber? text.toList = some n

theorem HexNumeral.unique {width n : Nat} {text other : String} (one : HexNumeral width n text)
    (two : HexNumeral width n other) : text = other := by
  apply String.toList_inj.1
  rw [eq_hexDigits one.lower one.reads, eq_hexDigits two.lower two.reads, one.length, two.length]

theorem hexNumeral_paddedHex {width n : Nat} (wide : 0 < width) (small : n < 16 ^ width) :
    HexNumeral width n (paddedHex width n) where
  length := by
    rw [paddedHex, String.toList_ofList, hexDigits_length,
      Nat.max_eq_left (hexLength_le wide small)]
  lower c among := by
    rw [paddedHex, String.toList_ofList] at among
    exact mem_hexDigits among
  reads := hexNumber?_paddedHex width n

end Text

open Text

namespace Log

/-! ### Identifiers -/

/-- A span shows one of its identifiers when it records and the identifier is not zero. -/
structure Shows (recording : Bool) (width id : Nat) (text : String) : Prop where
  recording : recording = true
  nonzero : id ≠ 0
  numeral : HexNumeral width id text

theorem padded_eq_some {recording : Bool} {width id : Nat} {text : String} (wide : 0 < width)
    (small : id < 16 ^ width) :
    (if recording && id != 0 then some (paddedHex width id) else none) = some text ↔
      Shows recording width id text := by
  rw [Option.ite_none_right_eq_some, Bool.and_eq_true, bne_iff_ne]
  constructor
  · rintro ⟨⟨records, nonzero⟩, ⟨⟩⟩
    exact ⟨records, nonzero, hexNumeral_paddedHex wide small⟩
  · rintro ⟨records, nonzero, written⟩
    exact ⟨⟨records, nonzero⟩, congrArg some ((hexNumeral_paddedHex wide small).unique written)⟩

theorem padded_reads {recording : Bool} {width id : Nat} {text : String}
    (shown : (if recording && id != 0 then some (paddedHex width id) else none) = some text) :
    hexNumber? text.toList = some id := by
  obtain rfl := Option.some.inj (Option.ite_none_right_eq_some.1 shown).2
  exact hexNumber?_paddedHex width id

variable {span : Span} {text : String}

theorem Span.traceText?_eq_some (small : span.traceId < 2 ^ 128) :
    span.traceText? = some text ↔ Shows span.recording 32 span.traceId text :=
  padded_eq_some (by decide) small

theorem Span.spanText?_eq_some (small : span.spanId < 2 ^ 64) :
    span.spanText? = some text ↔ Shows span.recording 16 span.spanId text :=
  padded_eq_some (by decide) small

/-- What an event and a response tell of the span that they arise in. -/
structure Joined (span : Option Span) (event : Members) (response : Response) : Prop where
  /-- Both name one trace, or neither names any. -/
  trace : event.get? "trace_id" = response.traceId.map .text
  traceText : ∀ text, response.traceId = some text ↔
    ∃ current ∈ span, Shows current.recording 32 current.traceId text
  spanText : ∀ value, event.get? "span_id" = some value ↔
    ∃ text, value = .text text ∧ ∃ current ∈ span, Shows current.recording 16 current.spanId text
  /-- No span of another trace shows the same text. -/
  traceApart : ∀ (other : Span) (text : String), response.traceId = some text →
    other.traceText? = some text → span.map Span.traceId = some other.traceId
  spanApart : ∀ (other : Span) (text : String), event.get? "span_id" = some (.text text) →
    other.spanText? = some text → span.map Span.spanId = some other.spanId

theorem joined {span : Option Span}
    (small : ∀ current ∈ span, current.traceId < 2 ^ 128 ∧ current.spanId < 2 ^ 64)
    {event : Members} (untraced : event.get? "trace_id" = none)
    (unspanned : event.get? "span_id" = none) {response : Response}
    (answered : response.traceId = span.bind Span.traceText?) :
    Joined span (addTrace span event) response := by
  have spanId : (addTrace span event).get? "span_id" = (span.bind Span.spanText?).map .text := by
    rw [get?_addTrace, if_pos rfl, unspanned, Option.or_none]
  constructor
  case trace =>
    rw [get?_addTrace, if_neg (by decide), if_pos rfl, untraced, Option.or_none, answered]
  case traceText =>
    intro text
    rw [answered, Option.bind_eq_some_iff]
    exact exists_congr fun current => and_congr_right fun here =>
      Span.traceText?_eq_some (small current here).1
  case spanText =>
    intro value
    rw [spanId, Option.map_eq_some_iff]
    refine exists_congr fun text => ?_
    rw [Option.bind_eq_some_iff, and_comm, eq_comm]
    exact and_congr_right fun _ => exists_congr fun current => and_congr_right fun here =>
      Span.spanText?_eq_some (small current here).2
  case traceApart =>
    intro other text shown alike
    obtain ⟨current, rfl, shown⟩ := Option.bind_eq_some_iff.1 (answered ▸ shown)
    have reads : hexNumber? text.toList = some current.traceId := padded_reads shown
    exact reads.symm.trans (padded_reads alike)
  case spanApart =>
    intro other text shown alike
    rw [spanId, Option.map_eq_some_iff] at shown
    obtain ⟨_, shown, ⟨⟩⟩ := shown
    obtain ⟨current, rfl, shown⟩ := Option.bind_eq_some_iff.1 shown
    have reads : hexNumber? text.toList = some current.spanId := padded_reads shown
    exact reads.symm.trans (padded_reads alike)

end Log

/-! ### Responses -/

theorem Response.readFields_fields (name : String) (fields : List (String × Document)) :
    readFields name (fields.map fun field => (.text field.1, field.2)) = .ok fields := by
  induction fields with
  | nil => rfl
  | cons field rest ih =>
      rw [List.map_cons, readFields, ih]
      rfl

theorem Response.ofReport_eq_ok (span : Option Log.Span) {report : Report} {code message : String}
    {details : List (String × Document)} (coded : report.code.text? = some code)
    (worded : report.message.text? = some message) (detailed : report.details = .record details) :
    ofReport span report = .ok ⟨span.bind Log.Span.traceText?, code, message, details⟩ := by
  have read : readObject "details" report.details = .ok details := by
    rw [detailed]
    exact readFields_fields "details" details
  rw [ofReport, coded, worded, read]

/-- **Failures and events join.** A report with texts and an object is answered with these, and the
response names the trace that an event logged in the same span names: both show it in thirty-two
digits that read back to it, or both show none. -/
theorem Response.joins_event {report : Report} {code message : String}
    {details : List (String × Document)} (coded : report.code.text? = some code)
    (worded : report.message.text? = some message) (detailed : report.details = .record details)
    {span : Option Log.Span}
    (small : ∀ current ∈ span, current.traceId < 2 ^ 128 ∧ current.spanId < 2 ^ 64)
    {event : Members} (untraced : event.get? "trace_id" = none)
    (unspanned : event.get? "span_id" = none) :
    ∃ response, ofReport span report = .ok response ∧ response.code = code ∧
      response.message = message ∧ response.details = details ∧
      Log.Joined span (Log.addTrace span event) response :=
  ⟨_, ofReport_eq_ok span coded worded detailed, rfl, rfl, rfl,
    Log.joined small untraced unspanned rfl⟩

/-- A report of a source that answers with an error, in the last span of the last trace. -/
theorem Response.joins_event_of_ruleLoad :
    let report := Report.of .ruleLoad "Rule source error: 503" [("status_code", .int 503)]
    let span : Log.Span := ⟨2 ^ 128 - 1, 2 ^ 64 - 1, true⟩
    let event : Members := [(.text "event", .text "Rule load failed")]
    report.code.text? = some "RULE_LOAD_ERROR" ∧ span.traceId < 2 ^ 128 ∧ span.spanId < 2 ^ 64 ∧
      event.get? "trace_id" = none ∧ event.get? "span_id" = none ∧
      ∃ response, ofReport (some span) report = .ok response ∧
        response.code = "RULE_LOAD_ERROR" ∧ response.message = "Rule source error: 503" ∧
        response.details = [("status_code", .int 503)] ∧
        Log.Joined (some span) (Log.addTrace (some span) event) response := by
  intro report span event
  have small : ∀ current ∈ some span, current.traceId < 2 ^ 128 ∧ current.spanId < 2 ^ 64 := by
    rintro _ ⟨⟩
    decide
  have coded : report.code.text? = some "RULE_LOAD_ERROR" := rfl
  have worded : report.message.text? = some "Rule source error: 503" := rfl
  have detailed : report.details = .record [("status_code", .int 503)] := rfl
  refine ⟨coded, (small span rfl).1, (small span rfl).2, rfl, rfl, ?_⟩
  exact joins_event coded worded detailed small rfl rfl

end AccessRules
