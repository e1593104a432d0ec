import AccessRules.Condition.Held
import AccessRules.Document.Equality
import AccessRules.Document.Members
import AccessRules.Proofs.Numeral.Script

/-!
# What guarding keeps

Guarding goes through a document and replaces some of its texts. A path says how to get from a
document to a part of it at any depth, and at each path the guarded document has the guarded form
of what stands there (`at?_guarding`). So it is enough to say what guarding does to a part by
itself: it keeps its root, that is all but the parts below it and the guard (`root_guarding`), and
guards it if it is an odd numeral (`guarding_eq_guarded_iff`). Equality does not see guards at all
(`guarding_equal`).

**`guarding_keeps`** collects this for the values of a program, whose tuples become lists
(`guarding_eq`).
-/

namespace AccessRules

namespace Document

/-! ### Parts -/

/-- The parts of a document: the items of a list, or the values of an object. -/
def parts : Document → List Document
  | .array items => items
  | .object members => members.map Prod.snd
  | _ => []

/-- The part at the end of a path, which gives the position of a part among its neighbours at each
depth. -/
def at? (document : Document) : List Nat → Option Document
  | [] => some document
  | position :: rest => document.parts[position]?.bind fun part => part.at? rest

/-- What a document is without its parts and its guard. -/
inductive Root where
  | list (length : Nat)
  | object (keys : List Key)
  | scalar (value : Document)

/-- The root of a document. -/
def root : Document → Root
  | .array items => .list items.length
  | .object members => .object (members.map Prod.fst)
  | .guarded value => .scalar (.text value)
  | scalar => .scalar scalar

theorem parts_guarding (document : Document) :
    document.guarding.parts = document.parts.map guarding := by
  cases document with
  | text value =>
      rw [guarding]
      split <;> rfl
  | array items =>
      rw [guarding, guardingItems_eq_map]
      rfl
  | object members =>
      rw [guarding, guardingMembers_eq_map, parts, parts, List.map_map, List.map_map]
      rfl
  | _ => rfl

/-- At each path the guarded document has the guarded form of what stands there. -/
theorem at?_guarding (document : Document) (path : List Nat) :
    document.guarding.at? path = (document.at? path).map guarding := by
  induction path generalizing document with
  | nil => rfl
  | cons position rest ih =>
      rw [at?, at?, parts_guarding, List.getElem?_map]
      cases document.parts[position]? with
      | none => rfl
      | some part => exact ih part

/-- Guarding keeps scalars and texts, the lengths of lists, and the keys of objects in order. -/
theorem root_guarding (document : Document) : document.guarding.root = document.root := by
  cases document with
  | text value =>
      rw [guarding]
      split <;> rfl
  | array items => rw [guarding, guardingItems_eq_map, root, root, List.length_map]
  | object members =>
      rw [guarding, guardingMembers_eq_map, root, root, List.map_map]
      rfl
  | _ => rfl

/-! ### Guards -/

theorem guarding_eq_guarded_iff {document : Document} {text : String} :
    document.guarding = .guarded text ↔
      document = .guarded text ∨ document = .text text ∧ isOddNumeral text = true := by
  cases document with
  | text value =>
      rw [guarding]
      by_cases same : value = text
      · subst same
        cases isOddNumeral value <;> simp
      · split <;> simp [same]
  | _ => simp [guarding]

mutual

/-- Guarding what is guarded changes nothing. -/
theorem guarding_guarding (document : Document) :
    document.guarding.guarding = document.guarding := by
  cases document with
  | text value =>
      rw [guarding]
      cases odd : isOddNumeral value with
      | true => rfl
      | false =>
          rw [if_neg Bool.false_ne_true, guarding, odd, if_neg Bool.false_ne_true]
  | array items => rw [guarding, guarding, guardingItems_guardingItems items]
  | object members => rw [guarding, guarding, guardingMembers_guardingMembers members]
  | _ => rfl

theorem guardingItems_guardingItems (items : List Document) :
    guardingItems (guardingItems items) = guardingItems items := by
  cases items with
  | nil => rfl
  | cons item rest =>
      rw [guardingItems, guardingItems, guarding_guarding item, guardingItems_guardingItems rest]

theorem guardingMembers_guardingMembers (members : List (Key × Document)) :
    guardingMembers (guardingMembers members) = guardingMembers members := by
  cases members with
  | nil => rfl
  | cons member rest =>
      obtain ⟨key, value⟩ := member
      rw [guardingMembers, guardingMembers, guarding_guarding value,
        guardingMembers_guardingMembers rest]

end

/-! ### Equality -/

mutual

/-- A guarded document equals the documents that it equals as given, and no others. -/
theorem guarding_equal (document other : Document) :
    document.guarding.equal other = document.equal other := by
  cases document with
  | text value =>
      rw [guarding]
      split
      · cases other <;> rfl
      · rfl
  | array items =>
      cases other with
      | array others => exact guardingItems_equal items others
      | _ => rfl
  | object members =>
      cases other with
      | object others =>
          rw [guarding, equal, equal, guardingMembers_equal members others,
            guardingMembers_eq_map, List.length_map]
      | _ => rfl
  | _ => rfl

theorem guardingItems_equal (items others : List Document) :
    equalItems (guardingItems items) others = equalItems items others := by
  cases items with
  | nil => rfl
  | cons item rest =>
      cases others with
      | nil => rfl
      | cons other others =>
          rw [guardingItems, equalItems, equalItems, guarding_equal item other,
            guardingItems_equal rest others]

theorem guardingMembers_equal (members : List (Key × Document)) (others : Members) :
    equalMembers (guardingMembers members) others = equalMembers members others := by
  cases members with
  | nil => rfl
  | cons member rest =>
      obtain ⟨key, value⟩ := member
      rw [guardingMembers, equalMembers, equalMembers, guardingMembers_equal rest others]
      cases others.find? key with
      | none => rfl
      | some other =>
          dsimp only
          rw [guarding_equal value other]

end

/-! ### Documents of JSON -/

/-- The document has the types of JSON alone: no leaf of another format, no float that is not a
number, and in each object texts as keys, each of them once. -/
inductive IsJson : Document → Prop
  | null : IsJson .null
  | bool (value : Bool) : IsJson (.bool value)
  | int (value : Int) : IsJson (.int value)
  | float {value : Float} (number : value.isNaN = false) : IsJson (.float value)
  | text (value : String) : IsJson (.text value)
  | guarded (value : String) : IsJson (.guarded value)
  | array {items : List Document} (each : ∀ item ∈ items, IsJson item) : IsJson (.array items)
  | object {members : List (Key × Document)}
      (texts : ∀ member ∈ members, ∃ name, member.1 = .text name)
      (once : (members.map Prod.fst).Nodup)
      (each : ∀ member ∈ members, IsJson member.2) : IsJson (.object members)

theorem unpacked_compare_self {x : Float.Model.UnpackedFloat} (number : x.isNaN = false) :
    x.compare x = some .eq := by
  cases x with
  | notANumber => cases number
  | infinity sign => cases sign <;> rfl
  | zero sign => rfl
  | finite sign mantissa exponent =>
      have level : (compare exponent exponent).then (compare mantissa mantissa) = .eq := by
        rw [Std.compare_self, Std.compare_self, Ordering.then_eq]
      cases sign with
      | positive => exact congrArg some level
      | negative => exact congrArg (fun order => some order.swap) level

/-- A float equals itself unless it is not a number. -/
theorem float_beq_self {x : Float} (number : x.isNaN = false) : (x == x) = true := by
  have same := unpacked_compare_self (x := x.toModel.unpack) number
  show (x.toModel.unpack.compare x.toModel.unpack == some .eq) = true
  rw [same]
  rfl

theorem equalItems_self {items : List Document}
    (each : ∀ item ∈ items, item.equal item = true) : equalItems items items = true := by
  induction items with
  | nil => rfl
  | cons item rest ih =>
      obtain ⟨first, others⟩ := List.forall_mem_cons.1 each
      rw [equalItems, first, ih others, Bool.and_self]

theorem equalMembers_of_found {members : List (Key × Document)} {others : Members}
    (found : ∀ member ∈ members, others.find? member.1 = some member.2)
    (each : ∀ member ∈ members, member.2.equal member.2 = true) :
    equalMembers members others = true := by
  induction members with
  | nil => rfl
  | cons member rest ih =>
      obtain ⟨key, value⟩ := member
      obtain ⟨firstFound, othersFound⟩ := List.forall_mem_cons.1 found
      obtain ⟨first, othersEach⟩ := List.forall_mem_cons.1 each
      rw [equalMembers, firstFound, ih othersFound othersEach, Bool.and_true]
      exact first

/-- Where each text stands once as a key, every member is found under its key. -/
theorem find?_of_mem {members : Members}
    (texts : ∀ member ∈ members, ∃ name, member.1 = .text name)
    (once : (members.map Prod.fst).Nodup) {member : Key × Document} (among : member ∈ members) :
    members.find? member.1 = some member.2 := by
  induction members with
  | nil => cases among
  | cons first rest ih =>
      obtain ⟨name, named⟩ := texts member among
      obtain ⟨apart, once⟩ := List.nodup_cons.1 once
      rw [Members.find?, named]
      obtain rfl | inside := List.mem_cons.1 among
      · rw [if_pos ((Key.same_text_iff _ name).2 named)]
      · have other : ¬ first.1.same (.text name) = true := by
          intro same
          rw [(Key.same_text_iff first.1 name).1 same, ← named] at apart
          exact apart (List.mem_map_of_mem inside)
        rw [if_neg other, ← named]
        exact ih (fun member among => texts member (List.mem_cons_of_mem first among)) once inside

/-- A document of JSON equals itself. -/
theorem IsJson.equal_self {document : Document} (json : document.IsJson) :
    document.equal document = true := by
  induction json with
  | null => rfl
  | bool value => exact beq_self_eq_true value
  | int value => exact beq_self_eq_true value
  | float number => exact float_beq_self number
  | text value => exact beq_self_eq_true value
  | guarded value => exact beq_self_eq_true value
  | array each ih => exact equalItems_self ih
  | object texts once each ih =>
      rw [equal, beq_self_eq_true, Bool.true_and]
      exact equalMembers_of_found (fun member among => find?_of_mem texts once among) ih

end Document

namespace Held

/-! ### Values in a program -/

/-- A guarded text refuses to be read, so the test for odd numerals fails and the guard stays. -/
theorem guardText_guarded (value : String) : guardText value (.guarded value) = .guarded value :=
  ite_self _

theorem isOk_parseFloat (text : String) :
    (Number.parseFloat text).isOk = (Number.readFloat? text.toList).isSome := by
  rw [Bool.eq_iff_iff, ← Numeral.exists_parseFloat_iff]
  cases Number.parseFloat text <;> simp [Except.isOk, Except.toBool]

theorem guardText_text (value : String) :
    guardText value (.text value) = (Document.text value).guarding := by
  rw [guardText, Condition.textToFloat, isOk_parseFloat, Document.guarding]
  rfl

mutual

/-- Guarding reads tuples as lists. -/
theorem guarding_eq (held : Held) : held.guarding = held.document.guarding := by
  cases held with
  | text value => exact guardText_text value
  | guarded value => exact guardText_guarded value
  | list items => rw [guarding, document, Document.guarding, guardingItems_eq items]
  | tuple items => rw [guarding, document, Document.guarding, guardingItems_eq items]
  | object members => rw [guarding, document, Document.guarding, guardingMembers_eq members]
  | _ => rfl

theorem guardingItems_eq (items : List Held) :
    guardingItems items = Document.guardingItems (documents items) := by
  cases items with
  | nil => rfl
  | cons item rest =>
      rw [guardingItems, documents, Document.guardingItems, guarding_eq item,
        guardingItems_eq rest]

theorem guardingMembers_eq (members : List (Key × Held)) :
    guardingMembers members = Document.guardingMembers (memberDocuments members) := by
  cases members with
  | nil => rfl
  | cons member rest =>
      obtain ⟨key, value⟩ := member
      rw [guardingMembers, memberDocuments, Document.guardingMembers, guarding_eq value,
        guardingMembers_eq rest]

end

mutual

theorem document_ofDocument (document : Document) : (ofDocument document).document = document := by
  cases document with
  | array items => rw [ofDocument, Held.document, documents_ofDocuments items]
  | object members => rw [ofDocument, Held.document, memberDocuments_ofMemberDocuments members]
  | _ => rfl

theorem documents_ofDocuments (items : List Document) : documents (ofDocuments items) = items := by
  cases items with
  | nil => rfl
  | cons item rest =>
      rw [ofDocuments, documents, document_ofDocument item, documents_ofDocuments rest]

theorem memberDocuments_ofMemberDocuments (members : List (Key × Document)) :
    memberDocuments (ofMemberDocuments members) = members := by
  cases members with
  | nil => rfl
  | cons member rest =>
      obtain ⟨key, value⟩ := member
      rw [ofMemberDocuments, memberDocuments, document_ofDocument value,
        memberDocuments_ofMemberDocuments rest]

end

/-- **What guarding keeps.** Guarding a value gives the guarded form of its document, in which
tuples are lists. At every path there is a part of the same root: the same scalar or text, as many
items, or the same keys in order. A text there is guarded if and only if it was guarded before or
is an odd numeral. A document of JSON equals its guarded form, and guarding that form once more
changes nothing. -/
theorem guarding_keeps (held : Held) :
    held.guarding = held.document.guarding ∧
    (∀ path, (held.guarding.at? path).map Document.root =
      (held.document.at? path).map Document.root) ∧
    (∀ path text, held.guarding.at? path = some (.guarded text) ↔
      held.document.at? path = some (.guarded text) ∨
        held.document.at? path = some (.text text) ∧ isOddNumeral text = true) ∧
    (held.document.IsJson → held.guarding.equal held.document = true) ∧
    (ofDocument held.guarding).guarding = held.guarding := by
  refine ⟨guarding_eq held, fun path => ?_, fun path text => ?_, fun json => ?_, ?_⟩
  · rw [guarding_eq, Document.at?_guarding, Option.map_map]
    exact Option.map_congr fun part _ => Document.root_guarding part
  · rw [guarding_eq, Document.at?_guarding]
    cases held.document.at? path with
    | none => simp
    | some part => simpa using Document.guarding_eq_guarded_iff
  · rw [guarding_eq, Document.guarding_equal]
    exact json.equal_self
  · rw [guarding_eq, document_ofDocument, guarding_eq]
    exact Document.guarding_guarding held.document

/-- Odd numerals in a tuple are guarded, and the same text stays as it is as a key; the numeral of
a guarded text is not odd, and the text stays guarded. -/
theorem guarding_keeps_of_tuple :
    let held : Held :=
      .object
        [(.text "1_000", .tuple [.text "1_000", .guarded "7", .float 1.5, .text "1e3"]),
         (.text "tags", .list [.object [(.text "limit", .text "-inf")], .null])]
    let guarded : Document :=
      .object
        [(.text "1_000", .array [.guarded "1_000", .guarded "7", .float 1.5, .text "1e3"]),
         (.text "tags", .array [.object [(.text "limit", .guarded "-inf")], .null])]
    held.document.IsJson ∧ held.guarding = guarded ∧ guarded.equal held.document = true ∧
      held.document.at? [1, 0, 0] = some (.text "-inf") ∧ isOddNumeral "-inf" = true ∧
      guarded.at? [1, 0, 0] = some (.guarded "-inf") ∧
      isOddNumeral "7" = false ∧ (ofDocument guarded).guarding = guarded := by
  intro held guarded
  have row : Document.IsJson (.array [.text "1_000", .guarded "7", .float 1.5, .text "1e3"]) := by
    refine .array ?_
    simp only [List.forall_mem_cons]
    exact ⟨.text _, .guarded _, .float (by decide), .text _, List.forall_mem_nil _⟩
  have tags : Document.IsJson (.array [.object [(.text "limit", .text "-inf")], .null]) := by
    have limit : Document.IsJson (.object [(.text "limit", .text "-inf")]) :=
      .object (by simp) (by decide) (List.forall_mem_singleton.2 (.text _))
    exact .array (List.forall_mem_cons.2 ⟨limit, List.forall_mem_singleton.2 .null⟩)
  have json : held.document.IsJson := by
    refine .object (by simp [memberDocuments]) (by decide) ?_
    exact List.forall_mem_cons.2 ⟨row, List.forall_mem_singleton.2 tags⟩
  have same : held.guarding = guarded := rfl
  obtain ⟨-, -, guards, equals, again⟩ := guarding_keeps held
  rw [same] at guards equals again
  have here : held.document.at? [1, 0, 0] = some (.text "-inf") := rfl
  have odd : isOddNumeral "-inf" = true := by decide
  exact ⟨json, same, equals json, here, odd, (guards [1, 0, 0] "-inf").2 (Or.inr ⟨here, odd⟩),
    by decide, again⟩

end Held

end AccessRules
