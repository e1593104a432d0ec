import AccessRules.Document.Members
import AccessRules.Log.Line

/-!
# What a line of the log carries

A line is made in steps that set and drop members one after another, so what it carries under a name
is what the last step left there. Each step is first described by what is found under any name after
it (`get?_setText`, `get?_addTrace`, `get?_addCorrelation`, `get?_render`, `exists_fillArguments`);
the line is then read off name by name.

* `Carries`: what a line carries under every name, besides where arguments travelled;
* **`written_line_carries`**: every call that passes the threshold, whose arguments fit its text and
  which holds no record of another log, writes a line that carries this.

Two steps set the timestamp. The date that is added first is gone when the time is added at the end
(`date_is_overwritten`).
-/

namespace AccessRules.Log

/-! ### Steps -/

@[simp] theorem get?_setText (name other : String) (value : Option String) (event : Members) :
    (setText name value event).get? other =
      if name = other then (value.map .text).or (event.get? other) else event.get? other := by
  cases value with
  | none => simp [setText]
  | some text =>
      rw [setText, Members.get?_set]
      rfl

@[simp] theorem get?_addTrace (span : Option Span) (event : Members) (other : String) :
    (addTrace span event).get? other =
      if "span_id" = other then ((span.bind Span.spanText?).map .text).or (event.get? other)
      else if "trace_id" = other then ((span.bind Span.traceText?).map .text).or (event.get? other)
      else event.get? other := by
  rw [addTrace, get?_setText, get?_setText]
  split
  next same => simp [← same]
  next => rfl

/-- A value that counts as true takes the place of what is found under a name. -/
theorem get?_replaced (value : Document) (event : Members) (name other : String) :
    (if value.isTrue then event.set name value else event).get? other =
      if name = other then if value.isTrue then some value else event.get? other
      else event.get? other := by
  split
  · rw [Members.get?_set]
  · rw [ite_self]

/-- A value that counts as true is set under a name that nothing is found under. -/
theorem get?_defaulted (value : Document) (event : Members) (name other : String) :
    (if value.isTrue && !event.has name then event.set name value else event).get? other =
      if name = other then (event.get? other).or (if value.isTrue then some value else none)
      else event.get? other := by
  rw [Members.has_eq]
  by_cases same : name = other
  · subst same
    cases found : event.get? name with
    | none => cases holds : value.isTrue <;> simp [found, Members.get?_set]
    | some old => simp [found]
  · rw [if_neg same]
    split
    · rw [Members.get?_set, if_neg same]
    · rfl

@[simp] theorem get?_addCorrelation (correlation : Correlation) (event : Members) (other : String) :
    (addCorrelation correlation event).get? other =
      if "request_id" = other then
        if correlation.request.isTrue then some correlation.request else event.get? other
      else if "subject_id" = other then
        (event.get? other).or
          (if correlation.subject.isTrue then some correlation.subject else none)
      else event.get? other := by
  unfold addCorrelation
  rw [get?_defaulted, get?_replaced]
  split
  next subject => simp [← subject]
  next => rfl

@[simp] theorem get?_render {mark name : String} (apart : mark ≠ name) (text : String)
    (event : Members) (other : String) :
    (render mark name text event).get? other =
      if name = other then
        if (event.get? mark).any Document.isTrue then some (.text text) else event.get? other
      else if mark = other then none
      else event.get? other := by
  unfold render
  dsimp only
  split
  next => rw [Members.get?_set, Members.get?_erase]
  next =>
    rw [Members.get?_erase]
    split
    next same =>
      have kept : name ≠ other := fun also => apart (same.trans also.symm)
      rw [if_neg kept]
    next => rw [ite_self]

theorem addService_of_logger {event : Members} {name : String}
    (logged : event.get? "logger" = some (.text name)) :
    addService event = .ok (setText "service" (serviceOf name) event) := by
  rw [addService, logged]
  rfl

/-! ### Calls -/

/-- The names that a call cannot take its fields by. -/
def ownNames : List String := ["self", "event", "method_name"]

/-- The text is the template with the arguments of the call filled in, or the template itself when
there are none. -/
def Call.Fits (call : Call) (template text : String) : Prop :=
  ∃ filling, argumentsOf call.arguments call.fields = .ok filling ∧
    match filling with
    | some arguments => fill template arguments = .ok text
    | none => text = template

/-- Does the call hold a record of another log? -/
def Call.holdsRecord (call : Call) : Bool :=
  match call.fields.get? "_record" with
  | none | some .null => false
  | some _ => true

/-- Does the call report an exception, by its method or by its mark? -/
def Call.reports (call : Call) : Bool :=
  ((call.fields.get? "exc_info").getD (.bool call.isException)).isTrue

theorem exists_members {call : Call} {template : String} (stated : call.event = .text template)
    (own : ∀ name ∈ ownNames, call.fields.has name = false) :
    ∃ event, call.members = .ok event ∧ event.get? "event" = some (.text template) ∧
      (event.get? "exc_info").any Document.isTrue = call.reports ∧
      ∀ other, other ≠ "event" → other ≠ "exc_info" →
        event.get? other = call.fields.get? other := by
  have free : (ownNames.any fun name => call.fields.has name) = false :=
    List.any_eq_false.2 fun name among => Bool.eq_false_iff.1 (own name among)
  unfold Call.members
  rw [show ["self", "event", "method_name"] = ownNames from rfl, free, stated]
  refine ⟨_, rfl, ?_, ?_, ?_⟩
  · rw [Members.get?_set, if_pos rfl]
  · rw [Members.get?_set, if_neg (by decide), Call.reports, Members.has_eq]
    cases marked : call.fields.get? "exc_info" with
    | some mark => simp [marked]
    | none =>
        cases call.isException
        · simp [marked, Document.isTrue]
        · simp [Members.get?_set, Document.isTrue]
  · intro other noEvent noMark
    rw [Members.get?_set, if_neg noEvent.symm]
    split
    · rw [Members.get?_set, if_neg noMark.symm]
    · rfl

theorem argumentsOf_congr {fields event : Members}
    (same : event.get? "positional_args" = fields.get? "positional_args")
    (arguments : List Document) : argumentsOf arguments event = argumentsOf arguments fields := by
  unfold argumentsOf
  rw [same]

theorem get?_dropArguments (arguments : List Document) (event : Members) {other : String}
    (apart : other ≠ "positional_args") :
    (dropArguments arguments event).get? other = event.get? other := by
  unfold dropArguments
  split
  · rfl
  · rw [Members.get?_erase, if_neg apart.symm]

theorem get?_dropArguments_self (arguments : List Document) (event : Members) :
    (dropArguments arguments event).get? "positional_args" = none ∨
      (dropArguments arguments event).get? "positional_args" = some .null := by
  unfold dropArguments
  split
  next nothing => exact Or.inr nothing
  next =>
    left
    rw [Members.get?_erase, if_pos rfl]

/-- Filling in the arguments of a call leaves the text and takes the arguments away. -/
theorem exists_fillArguments {call : Call} {template text : String} (fits : call.Fits template text)
    {event : Members} (stated : event.get? "event" = some (.text template))
    (same : event.get? "positional_args" = call.fields.get? "positional_args") :
    ∃ filled, fillArguments call.arguments event = .ok filled ∧
      filled.get? "event" = some (.text text) ∧
      (filled.get? "positional_args" = none ∨ filled.get? "positional_args" = some .null) ∧
      ∀ other, other ≠ "event" → other ≠ "positional_args" →
        filled.get? other = event.get? other := by
  obtain ⟨filling, found, result⟩ := fits
  rw [← argumentsOf_congr same] at found
  unfold fillArguments
  rw [found]
  cases filling with
  | none =>
      subst result
      refine ⟨_, rfl, ?_, get?_dropArguments_self _ _, fun other _ apart => ?_⟩
      · rw [get?_dropArguments _ _ (by decide), stated]
      · rw [get?_dropArguments _ _ apart]
  | some arguments =>
      have written : fillText arguments event = .ok (event.set "event" (.text text)) := by
        rw [fillText, stated]
        exact congrArg (Except.map fun text => event.set "event" (.text text)) result
      refine ⟨dropArguments call.arguments (event.set "event" (.text text)), ?_, ?_,
        get?_dropArguments_self _ _, fun other noEvent apart => ?_⟩
      · show (fillText arguments event).map (dropArguments call.arguments) = _
        rw [written]
        rfl
      · rw [get?_dropArguments _ _ (by decide), Members.get?_set, if_pos rfl]
      · rw [get?_dropArguments _ _ apart, Members.get?_set, if_neg noEvent.symm]

/-! ### Lines -/

/-- The names that some step of a line reads or writes. -/
def chainNames : List String :=
  ["_record", "logger", "level", "positional_args", "event", "timestamp", "stack_info", "stack",
   "exc_info", "exception", "service", "trace_id", "span_id", "request_id", "subject_id"]

/-- What a line carries: under every name what the last step left there. -/
structure Carries (setting : Setting) (call : Call) (name text : String) (line : Members) :
    Prop where
  logger : line.get? "logger" = some (.text name)
  level : line.get? "level" = some (.text call.level.word)
  event : line.get? "event" = some (.text text)
  /-- The time in seconds, and not the date. -/
  timestamp : line.get? "timestamp" = some (.float setting.moment.seconds)
  /-- What the name of the logger begins with, when it has a dot. -/
  service : line.get? "service" =
    ((serviceOf name).map .text).or (call.fields.get? "service")
  trace : line.get? "trace_id" =
    ((setting.span.bind Span.traceText?).map .text).or (call.fields.get? "trace_id")
  span : line.get? "span_id" =
    ((setting.span.bind Span.spanText?).map .text).or (call.fields.get? "span_id")
  /-- The request that is being served comes before the call's own. -/
  request : line.get? "request_id" =
    if setting.correlation.request.isTrue then some setting.correlation.request
    else call.fields.get? "request_id"
  /-- The call's own subject comes before the one that is being served. -/
  subject : line.get? "subject_id" = (call.fields.get? "subject_id").or
    (if setting.correlation.subject.isTrue then some setting.correlation.subject else none)
  stack : line.get? "stack" =
    if (call.fields.get? "stack_info").any Document.isTrue then some (.text setting.origin.stack)
    else call.fields.get? "stack"
  exception : line.get? "exception" =
    if call.reports then some (.text setting.origin.exception) else call.fields.get? "exception"
  /-- Marks are gone, and so are the arguments. -/
  marks : line.get? "stack_info" = none ∧ line.get? "exc_info" = none
  arguments : line.get? "positional_args" = none ∨ line.get? "positional_args" = some .null
  /-- Every other field of the call is unchanged, and there is no other one. -/
  fields : ∀ other ∉ chainNames, line.get? other = call.fields.get? other

/-- The names that are set before the arguments are filled in, and their own. -/
def headNames : List String := ["logger", "level", "event", "positional_args", "exc_info"]

/-- What an event carries once its arguments are filled in. -/
structure Filled (call : Call) (name text : String) (filled : Members) : Prop where
  logger : filled.get? "logger" = some (.text name)
  level : filled.get? "level" = some (.text call.level.word)
  event : filled.get? "event" = some (.text text)
  arguments : filled.get? "positional_args" = none ∨ filled.get? "positional_args" = some .null
  mark : (filled.get? "exc_info").any Document.isTrue = call.reports
  fields : ∀ other ∉ headNames, filled.get? other = call.fields.get? other

/-- An event with the name of its logger and its level. -/
def headed (call : Call) (name : String) (event : Members) : Members :=
  (event.set "logger" (.text name)).set "level" (.text call.level.word)

/-- An event whose arguments are filled in, with all that is added to it afterwards. -/
def dressed (setting : Setting) (name : String) (filled : Members) : Members :=
  addTime setting.moment.seconds <| addCorrelation setting.correlation <| addTrace setting.span <|
    setText "service" (serviceOf name) <|
      render "exc_info" "exception" setting.origin.exception <|
        render "stack_info" "stack" setting.origin.stack <| addDate setting.moment.date filled

theorem addLogger_eq {call : Call} {event : Members}
    (record : event.get? "_record" = call.fields.get? "_record") (name : String) :
    addLogger name event =
      if call.holdsRecord then .error .unknownName else .ok (event.set "logger" (.text name)) := by
  unfold addLogger Call.holdsRecord
  rw [record]
  cases call.fields.get? "_record" with
  | none => rfl
  | some value => cases value <;> rfl

/-- Arguments that fit a call are filled into its event. -/
theorem exists_filled {call : Call} {template text : String} (name : String)
    (fits : call.Fits template text) {event : Members}
    (worded : event.get? "event" = some (.text template))
    (marked : (event.get? "exc_info").any Document.isTrue = call.reports)
    (kept : ∀ other, other ≠ "event" → other ≠ "exc_info" →
      event.get? other = call.fields.get? other) :
    ∃ filled, fillArguments call.arguments (headed call name event) = .ok filled ∧
      Filled call name text filled := by
  have same : (headed call name event).get? "positional_args" =
      call.fields.get? "positional_args" := by simp [headed, kept]
  obtain ⟨filled, ran, texted, spent, others⟩ :=
    exists_fillArguments fits (by simp [headed, worded]) same
  refine ⟨filled, ran, ?_⟩
  constructor
  case logger =>
    rw [others "logger" (by decide) (by decide)]
    simp [headed]
  case level =>
    rw [others "level" (by decide) (by decide)]
    simp [headed]
  case event => exact texted
  case arguments => exact spent
  case mark =>
    rw [others "exc_info" (by decide) (by decide), ← marked]
    simp [headed]
  case fields =>
    intro other free
    have apart : ∀ name ∈ headNames, other ≠ name := fun name among same => free (same ▸ among)
    rw [others other (apart "event" (by decide)) (apart "positional_args" (by decide)), headed,
      Members.get?_set, if_neg (apart "level" (by decide)).symm,
      Members.get?_set, if_neg (apart "logger" (by decide)).symm]
    exact kept other (apart "event" (by decide)) (apart "exc_info" (by decide))

/-- What is added to an event leaves under each name what a line carries there. -/
theorem Filled.carries {call : Call} {name text : String} {filled : Members}
    (whole : Filled call name text filled) (setting : Setting) :
    Carries setting call name text (dressed setting name filled) := by
  have own : ∀ other ∈ ["service", "trace_id", "span_id", "request_id", "subject_id", "stack_info",
      "stack", "exception"], filled.get? other = call.fields.get? other := fun other among =>
    whole.fields other (by revert other; decide)
  constructor <;> simp only [dressed, addTime, addDate]
  case logger => simp [whole.logger]
  case level => simp [whole.level]
  case event => simp [whole.event]
  case timestamp => simp
  case service => simp [own]
  case trace => simp [own]
  case span => simp [own]
  case request => simp [own]
  case subject => simp [own]
  case stack => simp [own]
  case exception => simp [own, whole.mark]
  case marks => simp
  case arguments => simpa using whole.arguments
  case fields =>
    intro other free
    have apart : ∀ name ∈ chainNames, name ≠ other := fun name among same => free (same ▸ among)
    have among : ∀ name ∈ headNames, name ∈ chainNames := by decide
    -- No step writes under the name, the last one first.
    rw [Members.get?_set, if_neg (apart "timestamp" (by decide)),
      get?_addCorrelation, if_neg (apart "request_id" (by decide)),
      if_neg (apart "subject_id" (by decide)),
      get?_addTrace, if_neg (apart "span_id" (by decide)), if_neg (apart "trace_id" (by decide)),
      get?_setText, if_neg (apart "service" (by decide)),
      get?_render (by decide), if_neg (apart "exception" (by decide)),
      if_neg (apart "exc_info" (by decide)),
      get?_render (by decide), if_neg (apart "stack" (by decide)),
      if_neg (apart "stack_info" (by decide)),
      Members.get?_set, if_neg (apart "timestamp" (by decide))]
    exact whole.fields other fun head => free (among other head)

/-- A line that is written at all asks for the name of its logger, has its arguments filled in, and
is dressed. -/
theorem line?_of_passes {setting : Setting} {call : Call} {name : String} {event : Members}
    (passes : setting.threshold.rank ≤ call.level.rank) (made : call.members = .ok event)
    (named : loggerName call.logger = .ok name) :
    line? setting call = (addLogger name event).bind fun event =>
      (fillArguments call.arguments (event.set "level" (.text call.level.word))).bind fun filled =>
        (addService (render "exc_info" "exception" setting.origin.exception
          (render "stack_info" "stack" setting.origin.stack
            (addDate setting.moment.date filled)))).bind fun event =>
          .ok (some (addTime setting.moment.seconds
            (addCorrelation setting.correlation (addTrace setting.span event)))) := by
  unfold line?
  rw [made, named]
  exact if_neg (Nat.not_lt.2 passes)

/-- A call that passes the threshold and holds no record of another log writes its event, filled in
and dressed. -/
theorem exists_dressed {setting : Setting} {call : Call} {name template text : String}
    (named : loggerName call.logger = .ok name) (stated : call.event = .text template)
    (own : ∀ name ∈ ownNames, call.fields.has name = false) (fits : call.Fits template text)
    (passes : setting.threshold.rank ≤ call.level.rank) (unrecorded : call.holdsRecord = false) :
    ∃ filled, Filled call name text filled ∧
      line? setting call = .ok (some (dressed setting name filled)) := by
  obtain ⟨event, made, worded, marked, kept⟩ := exists_members stated own
  obtain ⟨filled, ran, whole⟩ := exists_filled name fits worded marked kept
  have logged : (render "exc_info" "exception" setting.origin.exception
      (render "stack_info" "stack" setting.origin.stack
        (addDate setting.moment.date filled))).get? "logger" = some (.text name) := by
    simp [addDate, whole.logger]
  refine ⟨filled, whole, ?_⟩
  rw [line?_of_passes passes made named, addLogger_eq (kept "_record" (by decide) (by decide)),
    unrecorded]
  show (fillArguments call.arguments (headed call name event)).bind _ = _
  rw [ran]
  show (addService _).bind _ = _
  rw [addService_of_logger logged]
  rfl

/-- **What a line carries.** A call that passes the threshold, and whose arguments fit the text of
its event, writes a line that carries the name of its logger, its level, the text, the time, the
service, the trace, the correlation, and every other field unchanged. Only a call that holds a
record of another log writes none: it fails. -/
theorem written_line_carries {setting : Setting} {call : Call} {name template text : String}
    (named : loggerName call.logger = .ok name) (stated : call.event = .text template)
    (own : ∀ name ∈ ownNames, call.fields.has name = false) (fits : call.Fits template text)
    (passes : setting.threshold.rank ≤ call.level.rank) :
    if call.holdsRecord then line? setting call = .error .unknownName
    else ∃ line, line? setting call = .ok (some line) ∧ Carries setting call name text line := by
  cases records : call.holdsRecord with
  | true =>
      obtain ⟨event, made, -, -, kept⟩ := exists_members stated own
      rw [if_pos rfl, line?_of_passes passes made named,
        addLogger_eq (kept "_record" (by decide) (by decide)), records]
      rfl
  | false =>
      obtain ⟨filled, whole, written⟩ := exists_dressed named stated own fits passes records
      exact ⟨_, written, whole.carries setting⟩

/-- A call with an argument and a field of its own, within a span and for a request. -/
theorem written_line_carries_argument :
    ∃ line, line?
        ⟨.info, some ⟨171, 205, true⟩, ⟨.text "r1", .text "u1"⟩, .calm "",
          ⟨"2024-05-01T12:00:00.000000Z", 1714564800⟩⟩
        ⟨.text "permissions.loader", .warning, false, .text "%s rules", [.text "two"],
          [(.text "path", .text "rules.yaml")]⟩ = .ok (some line) ∧
      Carries
        ⟨.info, some ⟨171, 205, true⟩, ⟨.text "r1", .text "u1"⟩, .calm "",
          ⟨"2024-05-01T12:00:00.000000Z", 1714564800⟩⟩
        ⟨.text "permissions.loader", .warning, false, .text "%s rules", [.text "two"],
          [(.text "path", .text "rules.yaml")]⟩ "permissions.loader" "two rules" line := by
  have fits : Call.Fits ⟨.text "permissions.loader", .warning, false, .text "%s rules",
      [.text "two"], [(.text "path", .text "rules.yaml")]⟩ "%s rules" "two rules" :=
    ⟨some (.sequence [.text "two"]), rfl, rfl⟩
  exact written_line_carries rfl rfl (by decide) fits (by decide)

/-- The date that is added to an event is gone from its line: the timestamp is no text. -/
theorem date_is_overwritten :
    ∃ line, line?
        ⟨.info, none, .clear, .calm "", ⟨"2024-05-01T12:00:00.000000Z", 1714564800⟩⟩
        ⟨.text "permissions.resolver", .info, false, .text "msg info", [], []⟩ = .ok (some line) ∧
      ∀ date, line.get? "timestamp" ≠ some (.text date) := by
  refine ⟨_, rfl, ?_⟩
  intro date same
  cases same

end AccessRules.Log
