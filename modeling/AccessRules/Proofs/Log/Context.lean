import AccessRules.Log.Setup
import AccessRules.Proofs.Log.Line
import Mathlib.Data.List.Induction

/-!
# What is being served, over time

Requests and subjects are told apart by what is called before an event is logged, and the two follow
different rules: a request that is set takes the place of the one before it, also when it counts as
false, and of the event's own; a subject that counts as false is passed over, and so is any subject
for an event that names one. Both are gone once the context is cleared. `latestRequest?` and
`latestSubject?` read off the calls what there is to add, without the state that they leave, and
`after_eq` says that this state is just that.

Each step that adds to an event writes under names of its own (`Addition.names`), and what it
writes depends on those names and on the event's logger alone (`under_onto_of_not_mem`,
`under_onto_congr`). That is why the steps may be taken in any order.

**`correlation_served`** has all of this: what calls come to in an event, that the events of
decisions keep their subject, and that the additions commute.
-/

namespace AccessRules

/-- The subject of the request that a notice is about. -/
def Notice.subject? : Notice → Option Subject
  | .conditionFailed subject _ _ _ | .decided subject _ _ _ => some subject
  | _ => none

namespace Log

/-! ### Calls -/

namespace Correlation

/-- A call that changes what is being served. -/
inductive Call where
  /-- Serve a request of the given identifier, or of the fresh one when nothing is given. -/
  | setRequest (fresh : String) (given : Document)
  | setSubject (given : Document)
  | clear

/-- What is being served after a call. -/
def perform (correlation : Correlation) : Call → Correlation
  | .setRequest fresh given => correlation.setRequest fresh given
  | .setSubject given => correlation.setSubject given
  | .clear => .clear

/-- What is being served after some calls. -/
def after (correlation : Correlation) (calls : List Call) : Correlation :=
  calls.foldl perform correlation

/-- The request that a call sets. -/
def Call.request? : Call → Option Document
  | .setRequest fresh .null => some (.text fresh)
  | .setRequest _ given => some given
  | _ => none

/-- The subject that a call sets. One that counts as false is not set. -/
def Call.subject? : Call → Option Document
  | .setSubject given => if given.isTrue then some given else none
  | _ => none

/-- Whether a call clears the context. -/
def Call.isClear : Call → Bool
  | .clear => true
  | _ => false

/-- The calls since the last one that cleared the context, the latest first. -/
def sinceClear (calls : List Call) : List Call := calls.reverse.takeWhile (!·.isClear)

/-- The latest request that was set since the context was cleared. -/
def latestRequest? (calls : List Call) : Option Document :=
  (sinceClear calls).findSome? Call.request?

/-- The latest subject that was set since the context was cleared. -/
def latestSubject? (calls : List Call) : Option Document :=
  (sinceClear calls).findSome? Call.subject?

@[simp] theorem after_append (correlation : Correlation) (calls : List Call) (call : Call) :
    correlation.after (calls ++ [call]) = (correlation.after calls).perform call := by
  simp [after]

theorem sinceClear_append (calls : List Call) (call : Call) :
    sinceClear (calls ++ [call]) = if call.isClear then [] else call :: sinceClear calls := by
  rw [sinceClear, List.reverse_append, List.reverse_singleton, List.singleton_append,
    List.takeWhile_cons]
  cases call.isClear <;> rfl

/-- What a call sets comes before whatever was set earlier, and clearing leaves nothing of it. -/
theorem latest_append (set? : Call → Option Document) (calls : List Call) (call : Call) :
    (sinceClear (calls ++ [call])).findSome? set? =
      if call.isClear then none else (set? call).or ((sinceClear calls).findSome? set?) := by
  rw [sinceClear_append]
  cases call.isClear with
  | true => rfl
  | false =>
      rw [if_neg Bool.false_ne_true, List.findSome?_cons]
      cases set? call <;> rfl

/-- **What is being served.** After any calls, that is the latest request and the latest subject
that were set since the context was cleared. -/
theorem after_eq (calls : List Call) :
    Correlation.clear.after calls =
      ⟨(latestRequest? calls).getD .null, (latestSubject? calls).getD .null⟩ := by
  induction calls using List.reverseRecOn with
  | nil => rfl
  | append_singleton calls call ih =>
      rw [after_append, ih, latestRequest?, latestSubject?, latestRequest?, latestSubject?,
        latest_append, latest_append]
      cases call with
      | setRequest fresh given => cases given <;> rfl
      | setSubject given =>
          cases counts : given.isTrue <;>
            simp [perform, setSubject, Call.isClear, Call.request?, Call.subject?, counts]
      | clear => rfl

theorem isTrue_of_latestSubject? {calls : List Call} {subject : Document}
    (latest : latestSubject? calls = some subject) : subject.isTrue = true := by
  obtain ⟨call, -, set⟩ := List.exists_of_findSome?_eq_some latest
  cases call with
  | setSubject given =>
      rw [Call.subject?, Option.ite_none_right_eq_some] at set
      obtain ⟨counts, same⟩ := set
      exact Option.some.inj same ▸ counts
  | _ => cases set

end Correlation

open Correlation

/-! ### Additions -/

section

variable (event : Members) (key : Key)

theorem under_setText (name : String) (value : Option String) :
    (setText name value event).under key =
      if key = .text name then
        value.elim (event.under key) fun text => (key, .text text) :: (event.under key).tail
      else event.under key := by
  cases value with
  | none => rw [setText, Option.elim_none, ite_self]
  | some text => rw [setText, Members.under_set, Option.elim_some]

theorem under_addTrace (span : Option Span) :
    (addTrace span event).under key =
      if key = .text "span_id" then
        (span.bind Span.spanText?).elim (event.under key) fun text =>
          (key, .text text) :: (event.under key).tail
      else if key = .text "trace_id" then
        (span.bind Span.traceText?).elim (event.under key) fun text =>
          (key, .text text) :: (event.under key).tail
      else event.under key := by
  rw [addTrace, under_setText, under_setText]
  split
  next here =>
    subst here
    rw [if_neg (by decide)]
  next => rfl

theorem has_eq_under (name : String) :
    event.has name = !(event.under (.text name)).isEmpty := by
  rw [Members.has_eq, Members.get?_eq_head?]
  cases event.under (.text name) <;> rfl

theorem under_replaced (value : Document) (name : String) :
    (if value.isTrue then event.set name value else event).under key =
      if key = .text name then
        if value.isTrue then (key, value) :: (event.under key).tail else event.under key
      else event.under key := by
  split
  · rw [Members.under_set]
  · rw [ite_self]

theorem under_defaulted (value : Document) (name : String) :
    (if value.isTrue && !event.has name then event.set name value else event).under key =
      if key = .text name then
        if value.isTrue && (event.under key).isEmpty then [(key, value)] else event.under key
      else event.under key := by
  rw [has_eq_under, Bool.not_not]
  by_cases here : key = .text name
  · subst here
    rw [if_pos rfl]
    split
    next added =>
      have nothing : event.under (.text name) = [] :=
        List.isEmpty_iff.1 (Bool.and_eq_true_iff.1 added).2
      rw [Members.under_set, if_pos rfl, nothing, List.tail_nil]
    next => rfl
  · rw [if_neg here]
    split
    · rw [Members.under_set, if_neg here]
    · rfl

theorem under_addCorrelation (correlation : Correlation) :
    (addCorrelation correlation event).under key =
      if key = .text "subject_id" then
        if correlation.subject.isTrue && (event.under key).isEmpty then [(key, correlation.subject)]
        else event.under key
      else if key = .text "request_id" then
        if correlation.request.isTrue then (key, correlation.request) :: (event.under key).tail
        else event.under key
      else event.under key := by
  unfold addCorrelation
  rw [under_defaulted, under_replaced]
  split
  next here =>
    have apart : key ≠ .text "request_id" := by
      rw [here]
      decide
    rw [if_neg apart]
  next => rfl

end

/-- A step that adds to an event what surrounds it. -/
inductive Addition where
  | service
  | trace
  | correlation

/-- The logger of an event is a text, if it is there. -/
def NamesLogger (event : Members) : Prop :=
  ∀ logger, event.get? "logger" = some logger → ∃ name, logger.text? = some name

/-- The service that an event's logger belongs to. -/
def serviceIn (event : Members) : Option String :=
  serviceOf (((event.get? "logger").bind Document.text?).getD "")

theorem addService_eq {event : Members} (names : NamesLogger event) :
    addService event = .ok (setText "service" (serviceIn event) event) := by
  rw [addService, serviceIn]
  cases found : event.get? "logger" with
  | none => rfl
  | some logger =>
      obtain ⟨name, texted⟩ := names logger found
      cases logger with
      | text value => rfl
      | guarded value => rfl
      | _ => cases texted

namespace Addition

variable (span : Option Span) (correlation : Correlation)

/-- Take a step. -/
def apply : Addition → Members → Except Fault Members
  | .service, event => addService event
  | .trace, event => .ok (addTrace span event)
  | .correlation, event => .ok (addCorrelation correlation event)

/-- Take steps one after another. -/
def applyAll (additions : List Addition) (event : Members) : Except Fault Members :=
  additions.foldlM (fun event addition => addition.apply span correlation event) event

/-- The names that a step may write under. -/
def names : Addition → List String
  | .service => ["service"]
  | .trace => ["trace_id", "span_id"]
  | .correlation => ["request_id", "subject_id"]

/-- What a step makes of an event whose logger is a text. -/
def onto : Addition → Members → Members
  | .service, event => setText "service" (serviceIn event) event
  | .trace, event => addTrace span event
  | .correlation, event => addCorrelation correlation event

/-- What steps make of such an event. -/
def ontoAll (additions : List Addition) (event : Members) : Members :=
  additions.foldl (fun event addition => addition.onto span correlation event) event

variable {span} {correlation} {event one other : Members} {addition : Addition} {key : Key}

theorem apply_eq (named : NamesLogger event) (addition : Addition) :
    addition.apply span correlation event = .ok (addition.onto span correlation event) := by
  cases addition with
  | service => exact addService_eq named
  | trace => rfl
  | correlation => rfl

/-- A step leaves what stands under other names. -/
theorem under_onto_of_not_mem (apart : ∀ name ∈ addition.names, key ≠ .text name) :
    (addition.onto span correlation event).under key = event.under key := by
  cases addition with
  | service =>
      have noService := apart "service" (by simp [names])
      rw [onto, under_setText, if_neg noService]
  | trace =>
      have noTrace := apart "trace_id" (by simp [names])
      have noSpan := apart "span_id" (by simp [names])
      rw [onto, under_addTrace, if_neg noSpan, if_neg noTrace]
  | correlation =>
      have noRequest := apart "request_id" (by simp [names])
      have noSubject := apart "subject_id" (by simp [names])
      rw [onto, under_addCorrelation, if_neg noSubject, if_neg noRequest]

/-- What a step writes under a key depends on what stands there, and on the logger. -/
theorem under_onto_congr (alike : one.under key = other.under key)
    (logger : one.get? "logger" = other.get? "logger") (addition : Addition) :
    (addition.onto span correlation one).under key =
      (addition.onto span correlation other).under key := by
  cases addition with
  | service => rw [onto, onto, serviceIn, serviceIn, logger, under_setText, under_setText, alike]
  | trace => rw [onto, onto, under_addTrace, under_addTrace, alike]
  | correlation => rw [onto, onto, under_addCorrelation, under_addCorrelation, alike]

theorem get?_logger_onto (addition : Addition) (event : Members) :
    (addition.onto span correlation event).get? "logger" = event.get? "logger" := by
  rw [Members.get?_eq_head?, Members.get?_eq_head?, under_onto_of_not_mem]
  cases addition <;> simp [names]

theorem namesLogger_onto (named : NamesLogger event) (addition : Addition) :
    NamesLogger (addition.onto span correlation event) := by
  intro logger found
  rw [get?_logger_onto] at found
  exact named logger found

theorem applyAll_eq (named : NamesLogger event) (additions : List Addition) :
    applyAll span correlation additions event = .ok (ontoAll span correlation additions event) := by
  induction additions generalizing event with
  | nil => rfl
  | cons addition rest ih =>
      rw [applyAll, List.foldlM_cons, apply_eq named]
      exact ih (namesLogger_onto named addition)

/-- Steps make the same members of members that are the same. -/
theorem sameMembers_ontoAll (same : Members.SameMembers one other) (additions : List Addition) :
    Members.SameMembers (ontoAll span correlation additions one)
      (ontoAll span correlation additions other) := by
  induction additions generalizing one other with
  | nil => exact same
  | cons addition rest ih =>
      exact ih fun key => under_onto_congr (same key) (same.get?_eq "logger") addition

/-- No two steps write under one name. -/
theorem names_disjoint {addition other : Addition} (apart : addition ≠ other) :
    ∀ name ∈ addition.names, name ∉ other.names := by
  cases addition <;> cases other <;> first | exact absurd rfl apart | decide

/-- Two steps may be taken in either order. -/
theorem onto_comm (first second : Addition) (event : Members) :
    Members.SameMembers
      (second.onto span correlation (first.onto span correlation event))
      (first.onto span correlation (second.onto span correlation event)) := by
  intro key
  by_cases same : first = second
  · rw [same]
  · by_cases writes : ∃ name ∈ first.names, key = .text name
    · -- Under a name of the first step the second one changes nothing, before or after it.
      obtain ⟨name, among, rfl⟩ := writes
      have apart : ∀ other ∈ second.names, Key.text name ≠ .text other := by
        rintro other there ⟨⟩
        exact names_disjoint same name among there
      rw [under_onto_of_not_mem apart]
      exact under_onto_congr (under_onto_of_not_mem apart).symm (get?_logger_onto second event).symm
        first
    · have apart : ∀ name ∈ first.names, key ≠ .text name := fun name among here =>
        writes ⟨name, among, here⟩
      have kept (event : Members) :
          (first.onto span correlation event).under key = event.under key :=
        under_onto_of_not_mem apart
      rw [kept]
      exact under_onto_congr (kept event) (get?_logger_onto first event) second

/-- Steps may be taken in any order. -/
theorem ontoAll_perm {additions others : List Addition} (rearranged : additions.Perm others)
    (event : Members) :
    Members.SameMembers (ontoAll span correlation additions event)
      (ontoAll span correlation others event) := by
  induction rearranged generalizing event with
  | nil => exact fun _ => rfl
  | cons addition _ ih => exact ih _
  | swap first second rest => exact sameMembers_ontoAll (onto_comm second first event) rest
  | trans _ _ ih ih' => exact fun key => (ih event key).trans (ih' event key)

end Addition

/-! ### Events -/

/-- What becomes of an event to which is added what is being served after some calls. -/
structure Served (calls : List Correlation.Call) (event result : Members) : Prop where
  /-- The latest request, unless it counts as false, takes the place of the event's own. -/
  request : result.get? "request_id" =
    ((latestRequest? calls).filter Document.isTrue).or (event.get? "request_id")
  /-- The event's own subject comes before the latest one. -/
  subject : result.get? "subject_id" = (event.get? "subject_id").or (latestSubject? calls)
  others : ∀ key, key ≠ .text "request_id" → key ≠ .text "subject_id" →
    result.under key = event.under key

theorem served_addCorrelation (calls : List Correlation.Call) (event : Members) :
    Served calls event (addCorrelation (Correlation.clear.after calls) event) := by
  rw [after_eq]
  constructor
  case request =>
    rw [get?_addCorrelation, if_pos rfl]
    cases latestRequest? calls with
    | none => rfl
    | some request =>
        rw [Option.filter_some, Option.getD_some]
        cases request.isTrue <;> rfl
  case subject =>
    rw [get?_addCorrelation, if_neg (by decide), if_pos rfl]
    cases latest : latestSubject? calls with
    | none => rfl
    | some subject => simp [isTrue_of_latestSubject? latest]
  case others =>
    intro key noRequest noSubject
    rw [under_addCorrelation, if_neg noSubject, if_neg noRequest]

/-- The event of a notice about a request names the subject of the request. -/
theorem get?_subject_of_notice {notice : Notice} {logged : LogEvent} {subject : Subject}
    (tells : notice.event? = some logged) (about : notice.subject? = some subject) :
    logged.call.fields.get? "subject_id" = some subject.id := by
  cases notice with
  | conditionFailed subject' resource report announced =>
      obtain rfl := Option.some.inj about
      cases announced with
      | true =>
          obtain rfl := Option.some.inj tells
          rfl
      | false => cases tells
  | decided subject' resource action decision =>
      obtain rfl := Option.some.inj about
      obtain rfl := Option.some.inj tells
      rfl
  | _ => cases about

/-- **What is served, in events.** After any calls, an event gets the latest request and, if it
names none, the latest subject, and nothing else of it changes. So the events about requests, which
name their subject, keep it. And what surrounds an event may be added to it in any order. -/
theorem correlation_served (calls : List Correlation.Call) (event : Members) (span : Option Span) :
    Served calls event (addCorrelation (Correlation.clear.after calls) event) ∧
    (∀ (notice : Notice) (logged : LogEvent) (subject : Subject),
      notice.event? = some logged → notice.subject? = some subject →
      (addCorrelation (Correlation.clear.after calls) logged.call.fields).get? "subject_id" =
        some subject.id) ∧
    (NamesLogger event → ∀ additions others : List Addition, additions.Perm others →
      ∃ one other,
        Addition.applyAll span (Correlation.clear.after calls) additions event = .ok one ∧
        Addition.applyAll span (Correlation.clear.after calls) others event = .ok other ∧
        one.Perm other) := by
  refine ⟨served_addCorrelation calls event, ?_, ?_⟩
  · intro notice logged subject tells about
    rw [(served_addCorrelation calls _).subject, get?_subject_of_notice tells about]
    rfl
  · intro named additions others rearranged
    exact ⟨_, _, Addition.applyAll_eq named additions, Addition.applyAll_eq named others,
      (Addition.ontoAll_perm rearranged event).perm⟩

/-- A request made afresh, and a subject that an empty one does not take the place of: both are
added to an event with a request of its own, and the event of a decision keeps its subject. -/
theorem correlation_served_after_clear :
    let calls : List Correlation.Call :=
      [.setRequest "f1" (.text "r0"), .clear, .setRequest "fresh" .null,
        .setSubject (.text "u1"), .setSubject (.text "")]
    let event : Members :=
      [(.text "logger", .text "permissions.resolver"), (.text "request_id", .text "own")]
    let subject : Subject := ⟨.text "asked", [], []⟩
    let notice : Notice :=
      .decided subject ⟨.text "d1", .text "doc", []⟩ (.text "read") ⟨true, "granted", some 0, 1, 0⟩
    latestRequest? calls = some (.text "fresh") ∧ latestSubject? calls = some (.text "u1") ∧
      Served calls event (addCorrelation (Correlation.clear.after calls) event) ∧
      (∃ logged, notice.event? = some logged ∧ notice.subject? = some subject ∧
        (addCorrelation (Correlation.clear.after calls) logged.call.fields).get? "subject_id" =
          some subject.id) ∧
      NamesLogger event ∧
      [Addition.service, .trace, .correlation].Perm [.correlation, .trace, .service] ∧
      ∃ one other,
        Addition.applyAll (some ⟨7, 9, true⟩) (Correlation.clear.after calls)
          [.service, .trace, .correlation] event = .ok one ∧
        Addition.applyAll (some ⟨7, 9, true⟩) (Correlation.clear.after calls)
          [.correlation, .trace, .service] event = .ok other ∧
        one.Perm other := by
  intro calls event subject notice
  have all := correlation_served calls event (some ⟨7, 9, true⟩)
  have named : NamesLogger event := by
    rintro logger ⟨⟩
    exact ⟨_, rfl⟩
  have backwards := (List.reverse_perm [Addition.service, .trace, .correlation]).symm
  exact ⟨rfl, rfl, all.1, ⟨_, rfl, rfl, all.2.1 notice _ subject rfl rfl⟩, named, backwards,
    all.2.2 named _ _ backwards⟩

end Log

end AccessRules
