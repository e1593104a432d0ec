import AccessRules.Proofs.Condition.Operation

/-!
# Variables without a value

A path goes through a document part by part. Where it does not lead anywhere it stops at one of its
parts, in one of two ways: what is asked for is not there (`Lacks`), which makes the variable
nothing, or a position lies beyond the end of a list or a text (`Overruns`), which is a fault.

* `Leads`, `Reaches`: one part of a path, and a whole path, said without the function that follows
  it;
* `follow_cases`: a path reaches something, or stops in one of the two ways, and what following it
  comes to tells which;
* **`unresolved_without_error_iff`**: a variable that is not there is nothing, and conditions on it
  come to an end without an error, exactly when its path does not stop at a position beyond an end.
-/

namespace AccessRules

namespace Document

/-- What positions count: the items of a list, or the characters of a text. -/
def positions? : Document → Option (List Document)
  | .array items => some items
  | .text value | .guarded value => some (value.toList.map fun c => .text (String.singleton c))
  | _ => none

/-- Nothing, a truth value, a number, or a value beyond those of JSON: no path leads into it. -/
def IsScalar : Document → Prop
  | .null | .bool _ | .int _ | .float _ | .leaf _ => True
  | _ => False

end Document

namespace Condition

open Number (readInt)

/-! ### Paths -/

/-- A part of a path leads on from a document: to the member of that name, or to the item at that
position. -/
inductive Leads : Document → String → Document → Prop where
  | member {members : Members} {name : String} {value : Document}
      (found : members.get? name = some value) : Leads (.object members) name value
  | position {document value : Document} {items : List Document} {part : String} {position : Int}
      (counted : document.positions? = some items) (numeral : readInt part.toList = .ok position)
      (there : itemAt? items position = some value) : Leads document part value

/-- A document has nothing of the kind that a part of a path asks for. -/
inductive Lacks : Document → String → Prop where
  | member {members : Members} {name : String} (absent : members.get? name = none) :
      Lacks (.object members) name
  /-- The part is no position. -/
  | position {document : Document} {items : List Document} {part : String}
      (counted : document.positions? = some items)
      (word : ∀ position, readInt part.toList ≠ .ok position) : Lacks document part
  | scalar {document : Document} {part : String} (whole : document.IsScalar) : Lacks document part

/-- A part of a path is a position that a list or a text does not have. -/
inductive Overruns : Document → String → Prop where
  | beyond {document : Document} {items : List Document} {part : String} {position : Int}
      (counted : document.positions? = some items) (numeral : readInt part.toList = .ok position)
      (outside : itemAt? items position = none) : Overruns document part

/-- A path leads from a document to what it reaches. -/
inductive Reaches : Document → List String → Document → Prop where
  | here (document : Document) : Reaches document [] document
  | on {document next reached : Document} {part : String} {rest : List String}
      (leads : Leads document part next) (reaches : Reaches next rest reached) :
      Reaches document (part :: rest) reached

/-- A path reaches a document at which its next part stops as said. -/
def StopsBy (stops : Document → String → Prop) (document : Document) (path : List String) : Prop :=
  ∃ before stop part after, path = before ++ part :: after ∧ Reaches document before stop ∧
    stops stop part

/-! ### One part -/

section

variable {document next : Document} {part : String}

theorem step_text (value part : String) :
    step (.text value) part = match readInt part.toList with
      | .error _ => .ok none
      | .ok position =>
          match itemAt? (value.toList.map fun c => Document.text (String.singleton c)) position with
          | some item => .ok (some item)
          | none => .error .outOfRange := by
  unfold step
  cases readInt part.toList with
  | error reason => rfl
  | ok position =>
      dsimp only
      rw [itemAt?_map]
      cases itemAt? value.toList position <;> rfl

/-- A part of a path into a list or a text, by what it says as a position. -/
theorem step_of_positions? {items : List Document} (counted : document.positions? = some items) :
    step document part = match readInt part.toList with
      | .error _ => .ok none
      | .ok position => match itemAt? items position with
        | some item => .ok (some item)
        | none => .error .outOfRange := by
  cases document with
  | array others =>
      obtain rfl := Option.some.inj counted
      unfold step
      cases readInt part.toList with
      | error reason => rfl
      | ok position =>
          dsimp only
          cases itemAt? others position <;> rfl
  | text value =>
      obtain rfl := Option.some.inj counted
      exact step_text value part
  | guarded value =>
      obtain rfl := Option.some.inj counted
      exact step_text value part
  | _ => cases counted

theorem Leads.step_eq (leads : Leads document part next) :
    step document part = .ok (some next) := by
  cases leads with
  | member found => rw [step, found]
  | position counted numeral there =>
      rw [step_of_positions? counted, numeral]
      simp only [there]

theorem Lacks.step_eq (lacks : Lacks document part) : step document part = .ok none := by
  cases lacks with
  | member absent => rw [step, absent]
  | position counted word =>
      rw [step_of_positions? counted]
      cases numeral : readInt part.toList with
      | error reason => rfl
      | ok position => exact absurd numeral (word position)
  | scalar whole =>
      cases document with
      | array => cases whole
      | object => cases whole
      | text => cases whole
      | guarded => cases whole
      | _ => rfl

theorem Overruns.step_eq (overruns : Overruns document part) :
    step document part = .error .outOfRange := by
  obtain ⟨counted, numeral, outside⟩ := overruns
  rw [step_of_positions? counted, numeral]
  simp only [outside]

theorem leads_or_stops_of_positions? {items : List Document}
    (counted : document.positions? = some items) (part : String) :
    (∃ next, Leads document part next) ∨ Lacks document part ∨ Overruns document part := by
  cases numeral : readInt part.toList with
  | error reason =>
      refine Or.inr (Or.inl (.position counted fun position read => ?_))
      rw [numeral] at read
      cases read
  | ok position =>
      cases there : itemAt? items position with
      | some item => exact Or.inl ⟨item, .position counted numeral there⟩
      | none => exact Or.inr (Or.inr (.beyond counted numeral there))

/-- A part of a path leads on, or it stops in one of two ways. -/
theorem leads_or_stops (document : Document) (part : String) :
    (∃ next, Leads document part next) ∨ Lacks document part ∨ Overruns document part := by
  cases document with
  | object members =>
      cases found : Members.get? members part with
      | some value => exact Or.inl ⟨value, .member found⟩
      | none => exact Or.inr (Or.inl (.member found))
  | array items => exact leads_or_stops_of_positions? rfl part
  | text value => exact leads_or_stops_of_positions? rfl part
  | guarded value => exact leads_or_stops_of_positions? rfl part
  | _ => exact Or.inr (Or.inl (.scalar trivial))

end

/-! ### Whole paths -/

section

variable {document next reached stop : Document} {part : String} {path rest : List String}

theorem Reaches.follow_append (reaches : Reaches document path stop) (rest : List String) :
    follow document (path ++ rest) = follow stop rest := by
  induction reaches with
  | here => rfl
  | on leads _ ih =>
      rw [List.cons_append, follow, leads.step_eq]
      exact ih

theorem Reaches.follow_eq (reaches : Reaches document path reached) :
    follow document path = .ok (some reached) := by
  have followed := reaches.follow_append []
  rwa [List.append_nil] at followed

theorem StopsBy.follow_eq_none (stops : StopsBy Lacks document path) :
    follow document path = .ok none := by
  obtain ⟨before, stop, part, after, rfl, reaches, lacks⟩ := stops
  rw [reaches.follow_append, follow, lacks.step_eq]
  rfl

theorem StopsBy.follow_eq_error (stops : StopsBy Overruns document path) :
    follow document path = .error .outOfRange := by
  obtain ⟨before, stop, part, after, rfl, reaches, overruns⟩ := stops
  rw [reaches.follow_append, follow, overruns.step_eq]
  rfl

/-- A path whose first part leads on stops where the rest of it stops. -/
theorem StopsBy.behind {stops : Document → String → Prop} (leads : Leads document part next)
    (later : StopsBy stops next rest) : StopsBy stops document (part :: rest) := by
  obtain ⟨before, stop, last, after, rfl, reaches, stopped⟩ := later
  exact ⟨part :: before, stop, last, after, rfl, .on leads reaches, stopped⟩

/-- A path reaches something, or it stops in one of two ways. -/
theorem follow_cases (document : Document) (path : List String) :
    (∃ reached, Reaches document path reached) ∨ StopsBy Lacks document path ∨
      StopsBy Overruns document path := by
  induction path generalizing document with
  | nil => exact Or.inl ⟨document, .here document⟩
  | cons part rest ih =>
      obtain ⟨next, leads⟩ | lacks | overruns := leads_or_stops document part
      · obtain ⟨reached, reaches⟩ | lacks | overruns := ih next
        · exact Or.inl ⟨reached, .on leads reaches⟩
        · exact Or.inr (Or.inl (lacks.behind leads))
        · exact Or.inr (Or.inr (overruns.behind leads))
      · exact Or.inr (Or.inl ⟨[], document, part, rest, rfl, .here document, lacks⟩)
      · exact Or.inr (Or.inr ⟨[], document, part, rest, rfl, .here document, overruns⟩)

end

/-! ### Conditions on a variable -/

section

variable {path : String} {data : Document}

/-- Conditions that ask nothing of a variable but whether it is there: the variable itself, its
negation, and its equality with nothing. -/
def onPresence (path : String) : List Document :=
  [valueAt path, operation "!" [valueAt path], operation "==" [valueAt path, .null]]

theorem isOperation_of_mem_onPresence {condition : Document} (among : condition ∈ onPresence path) :
    isOperation condition = true := by
  simp only [onPresence, List.mem_cons, List.not_mem_nil, or_false] at among
  obtain rfl | rfl | rfl := among <;> rfl

/-- A path with a name is followed. -/
theorem variableIn?_of_named (named : path ≠ "") (data : Document) :
    variableIn? data (.text path) = follow data (pathParts path) := by
  have noName : isNoName (.text path) = false := by
    simpa [isNoName] using named
  rw [variableIn?, noName]
  rfl

theorem ofName?_not : Operator.ofName? "!" = some (.function .negation) := rfl

theorem ofName?_equal : Operator.ofName? "==" = some (.function .equal) := rfl

theorem meaning_null (data : Document) : meaning .null data = .ok .null := by
  simp [meaning]

theorem meaning_not_valueAt {value : Document} (whole : data.isTrue = true)
    (found : meaning (valueAt path) data = .ok value) :
    meaning (operation "!" [valueAt path]) data = .ok (.bool !value.isTrue) :=
  meaning_operation ofName?_not whole (.cons found .nil)

theorem meaning_isNull_valueAt {value : Document} (whole : data.isTrue = true)
    (found : meaning (valueAt path) data = .ok value) :
    meaning (operation "==" [valueAt path, .null]) data =
      (looselyEqual value .null).map .bool :=
  meaning_operation ofName?_equal whole (.cons found (.cons (meaning_null data) .nil))

/-- A variable that is a fault is the fault of every condition on it. -/
theorem meaning_onPresence_of_error {fault : Fault} (whole : data.isTrue = true)
    (failed : meaning (valueAt path) data = .error fault) {condition : Document}
    (among : condition ∈ onPresence path) : meaning condition data = .error fault := by
  simp only [onPresence, List.mem_cons, List.not_mem_nil, or_false] at among
  obtain rfl | rfl | rfl := among
  · exact failed
  · rw [meaning_function ofName?_not whole, values_cons, failed]
    rfl
  · rw [meaning_function ofName?_equal whole, values_cons, failed]
    rfl

end

section

variable {subject : Subject} {resource : Resource} {path : String}

/-- What following a path through a request comes to is what the variable of that name comes to in
the data that conditions are evaluated over, but for guards. -/
theorem meaning_valueAt_context (named : path ≠ "") :
    meaning (valueAt path) (context subject resource).guarding =
      (follow (context subject resource) (pathParts path)).map fun found =>
        (found.map Document.guarding).getD .null := by
  rw [meaning_valueAt_eq (isTrue_context subject resource), variableIn?_guarding,
    variableIn?_of_named named]
  cases follow (context subject resource) (pathParts path) <;> rfl

/-- A path that stops for want of something makes its variable nothing. -/
theorem outcomes_of_lacks (named : path ≠ "")
    (lacks : StopsBy Lacks (context subject resource) (pathParts path)) :
    outcome (valueAt path) subject resource = ⟨false, none⟩ ∧
      outcome (operation "!" [valueAt path]) subject resource = ⟨true, none⟩ ∧
      outcome (operation "==" [valueAt path, .null]) subject resource = ⟨true, none⟩ := by
  have whole := isTrue_context subject resource
  have nothing : meaning (valueAt path) (context subject resource).guarding = .ok .null := by
    rw [meaning_valueAt_context named, lacks.follow_eq_none]
    rfl
  refine ⟨?_, ?_, ?_⟩
  · rw [outcome_of_isOperation rfl, nothing]
    rfl
  · rw [outcome_of_isOperation rfl, meaning_not_valueAt whole nothing]
    rfl
  · rw [outcome_of_isOperation rfl, meaning_isNull_valueAt whole nothing]
    rfl

/-- A path that stops at a position beyond an end makes every condition on its variable fail. -/
theorem outcomes_of_overruns (named : path ≠ "")
    (overruns : StopsBy Overruns (context subject resource) (pathParts path)) :
    ∀ condition ∈ onPresence path,
      outcome condition subject resource = ⟨false, some (failed .outOfRange)⟩ := by
  have failed : meaning (valueAt path) (context subject resource).guarding =
      .error .outOfRange := by
    rw [meaning_valueAt_context named, overruns.follow_eq_error]
    rfl
  intro condition among
  rw [outcome_of_isOperation (isOperation_of_mem_onPresence among),
    meaning_onPresence_of_error (isTrue_context subject resource) failed among]

/-- **Variables without a value.** A path that reaches nothing in a request stops because something
is not there, or at a position beyond the end of a list or a text. Unless it is the latter, its
variable is nothing: the variable itself is not satisfied, its negation and its equality with
nothing are, and none of them is an error. If it is the latter, all three fail with the fault of
that position. -/
theorem unresolved_without_error_iff (named : path ≠ "")
    (unresolved : ∀ reached, ¬ Reaches (context subject resource) (pathParts path) reached) :
    (StopsBy Lacks (context subject resource) (pathParts path) ∨
      StopsBy Overruns (context subject resource) (pathParts path)) ∧
    ((outcome (valueAt path) subject resource = ⟨false, none⟩ ∧
        outcome (operation "!" [valueAt path]) subject resource = ⟨true, none⟩ ∧
        outcome (operation "==" [valueAt path, .null]) subject resource = ⟨true, none⟩) ↔
      ¬ StopsBy Overruns (context subject resource) (pathParts path)) ∧
    (StopsBy Overruns (context subject resource) (pathParts path) →
      ∀ condition ∈ onPresence path,
        outcome condition subject resource = ⟨false, some (failed .outOfRange)⟩) := by
  have stops : StopsBy Lacks (context subject resource) (pathParts path) ∨
      StopsBy Overruns (context subject resource) (pathParts path) := by
    obtain ⟨reached, reaches⟩ | stops := follow_cases (context subject resource) (pathParts path)
    · exact absurd reaches (unresolved reached)
    · exact stops
  -- The outcomes of the two ways differ, so that the path cannot stop in both.
  refine ⟨stops, ⟨fun ended overruns => ?_, fun clear => ?_⟩, outcomes_of_overruns named⟩
  · have failed := outcomes_of_overruns named overruns _ List.mem_cons_self
    rw [ended.1] at failed
    cases failed
  · exact outcomes_of_lacks named (stops.resolve_right clear)

/-- A path into the tags of an owner by a word that is no position: the rest of it does not matter,
and the variable is nothing. -/
theorem unresolved_without_error_at_word :
    let owner : Document := .record [("name", .text "ann"), ("tags", .texts ["red", "1_000"])]
    let subject : Subject := ⟨.text "u1", [.text "viewer"], []⟩
    let resource : Resource := ⟨.text "d1", .text "document", [(.text "owner", owner)]⟩
    let path := "resource.attributes.owner.tags.first.0"
    path ≠ "" ∧
      (∀ reached, ¬ Reaches (context subject resource) (pathParts path) reached) ∧
      outcome (valueAt path) subject resource = ⟨false, none⟩ ∧
      outcome (operation "!" [valueAt path]) subject resource = ⟨true, none⟩ ∧
      outcome (operation "==" [valueAt path, .null]) subject resource = ⟨true, none⟩ := by
  intro owner subject resource path
  have named : path ≠ "" := by decide
  have word (position : Int) : readInt "first".toList ≠ .ok position := by
    have unread : readInt "first".toList = .error .malformed := by decide
    rw [unread]
    exact nofun
  have parts : pathParts "resource.attributes.owner.tags.first.0" =
      ["resource", "attributes", "owner", "tags"] ++ ["first", "0"] := by decide
  have lacks : StopsBy Lacks (context subject resource) (pathParts path) :=
    ⟨["resource", "attributes", "owner", "tags"], .texts ["red", "1_000"], "first", ["0"], parts,
      .on (.member rfl) (.on (.member rfl) (.on (.member rfl) (.on (.member rfl) (.here _)))),
      .position rfl word⟩
  have followed := lacks.follow_eq_none
  have unresolved (reached : Document) :
      ¬ Reaches (context subject resource) (pathParts path) reached := by
    intro reaches
    rw [reaches.follow_eq] at followed
    cases followed
  obtain ⟨-, ended_iff, -⟩ := unresolved_without_error_iff named unresolved
  refine ⟨named, unresolved, ended_iff.2 fun overruns => ?_⟩
  rw [overruns.follow_eq_error] at followed
  cases followed

/-- The sixth role of a subject with one role is not there, and yet its variable is a fault; so its
negation is not satisfied. -/
theorem position_beyond_end_is_error :
    let subject : Subject := ⟨.text "u1", [.text "viewer"], []⟩
    let resource : Resource := ⟨.text "d1", .text "document", []⟩
    (∀ reached, ¬ Reaches (context subject resource) (pathParts "subject.roles.5") reached) ∧
      ∀ condition ∈ onPresence "subject.roles.5",
        outcome condition subject resource = ⟨false, some (failed .outOfRange)⟩ := by
  intro subject resource
  have position : Number.readInt "5".toList = .ok 5 := by rfl
  have overruns : StopsBy Overruns (context subject resource) (pathParts "subject.roles.5") :=
    ⟨["subject", "roles"], .array [.text "viewer"], "5", [], by rfl,
      .on (.member rfl) (.on (.member rfl) (.here _)), .beyond rfl position rfl⟩
  refine ⟨fun reached reaches => ?_, outcomes_of_overruns (by decide) overruns⟩
  have followed := reaches.follow_eq
  rw [overruns.follow_eq_error] at followed
  cases followed

end

end Condition

end AccessRules
