import AccessRules.Proofs.Source.Encoding
import AccessRules.Proofs.Yaml.Flaws
import AccessRules.Proofs.Yaml.Lexing
import AccessRules.Proofs.Yaml.Reading
import AccessRules.Source.File
import AccessRules.Source.Http

/-!
# What gets out of a source of rules

A source of rules answers for what it reads: it delivers a document, or it reports that the rules
could not be loaded (`Fetched.Contained`). A source on the network always does, whatever it is
answered. A rule file does unless reading its text comes to a fault, which then gets out as it is.

Of a file that is not followed to its end nothing is said here. What keeps it from being followed
can be seen on its bytes, its tokens and its nodes (`Strays`).

* `Yaml.FaultyText` — the texts whose reading comes to a fault, `Yaml.read_eq_fault_iff`;
* `FileState.Escapes` — the faults that get out of a file;
* **`sources_contained`** — of files that are followed these get out, and nothing else does.
-/

namespace AccessRules

/-! ### Faults of texts -/

namespace Yaml

/-- Reading the text comes to the fault: something in the text is too large for the reader of its
tokens, or the nearest flaw of its node is the fault. -/
inductive FaultyText (text : List Char) (fault : Fault) : Prop where
  | oversize (allowed : text.all isAllowed = true)
      (broken : Node.ofTokens (Token.ofText text) = .error (.fault fault))
      (large : Oversize text fault) : FaultyText text fault
  | value {node : Node} {depth : Nat} (allowed : text.all isAllowed = true)
      (parsed : Node.ofTokens (Token.ofText text) = .ok (some node))
      (nearest : Nearest node.flaws (depth, .fault fault)) : FaultyText text fault

section

variable {text : List Char} {fault : Fault}

/-- Tokens are read to a fault only if something in the text is too large. -/
theorem oversize_of_ofTokens
    (broken : Node.ofTokens (Token.ofText text) = .error (.fault fault)) : Oversize text fault := by
  obtain malformed | among | ⟨left, -⟩ := ofTokens_error broken
  · cases malformed
  · exact mem_ofText_broken among
  · cases left

theorem build_eq_error_iff (node : Node) (flaw : Flaw) :
    node.build = .error flaw ↔ Nearest node.flaws flaw := by
  have agrees := build_agrees node
  cases built : node.build with
  | ok value =>
      rw [built] at agrees
      refine ⟨nofun, fun nearest => ?_⟩
      exact absurd (show node.flaws = [] from agrees) (List.ne_nil_of_mem nearest.mem)
  | error first =>
      rw [built] at agrees
      replace agrees : Nearest node.flaws first := agrees
      refine ⟨fun same => ?_, fun nearest => ?_⟩
      · obtain rfl : first = flaw := Except.error.inj same
        exact agrees
      · rw [agrees.unique nearest]

/-- A text of allowed characters is read by its tokens, its node and the value of this. -/
theorem read_of_allowed (allowed : text.all isAllowed = true) :
    read text = match Node.ofTokens (Token.ofText text) with
      | .error trouble => .error trouble
      | .ok none => .ok .null
      | .ok (some node) => node.build.mapError (·.2) := by
  rw [read, allowed]
  cases Node.ofTokens (Token.ofText text) with
  | error trouble => rfl
  | ok found => cases found <;> rfl

theorem read_eq_fault_iff : read text = .error (.fault fault) ↔ FaultyText text fault := by
  constructor
  · intro failed
    cases allowed : text.all isAllowed with
    | false => simp [read, allowed] at failed
    | true =>
        rw [read_of_allowed allowed] at failed
        -- A fault is met among the tokens or among the values; nodes have none of their own.
        split at failed
        next trouble parsed =>
          obtain rfl : trouble = .fault fault := Except.error.inj failed
          exact .oversize allowed parsed (oversize_of_ofTokens parsed)
        next => cases failed
        next node parsed =>
          cases built : node.build with
          | ok value =>
              rw [built] at failed
              cases failed
          | error flaw =>
              obtain ⟨depth, trouble⟩ := flaw
              rw [built] at failed
              obtain rfl : trouble = .fault fault := Except.error.inj failed
              exact .value allowed parsed ((build_eq_error_iff node _).1 built)
  · rintro (⟨allowed, broken, -⟩ | ⟨allowed, parsed, nearest⟩)
    · rw [read_of_allowed allowed, broken]
    · rw [read_of_allowed allowed, parsed]
      dsimp only
      rw [(build_eq_error_iff _ _).2 nearest]
      rfl

/-- A text is left for an escape of half a character, for an alias, or for merges. -/
theorem read_eq_beyond (left : read text = .error .beyond) :
    Halved text ∨ (∃ name, .alias name ∈ Token.ofText text) ∨
      ∃ node, Node.ofTokens (Token.ofText text) = .ok (some node) ∧ node.hasMerges = true := by
  cases allowed : text.all isAllowed with
  | false => simp [read, allowed] at left
  | true =>
      rw [read_of_allowed allowed] at left
      split at left
      next trouble parsed =>
        obtain rfl : trouble = .beyond := Except.error.inj left
        obtain malformed | among | ⟨-, aliased⟩ := ofTokens_error parsed
        · cases malformed
        · exact .inl (mem_ofText_broken among)
        · exact .inr (.inl aliased)
      next => cases left
      next node parsed =>
        cases built : node.build with
        | ok value =>
            rw [built] at left
            cases left
        | error flaw =>
            obtain ⟨depth, trouble⟩ := flaw
            rw [built] at left
            obtain rfl : trouble = .beyond := Except.error.inj left
            have nearest := (build_eq_error_iff node _).1 built
            exact .inr (.inr ⟨node, parsed, flaws_isOfValue node _ nearest.mem⟩)

theorem FaultyText.allowed (faulty : FaultyText text fault) : text.all isAllowed = true := by
  cases faulty <;> assumption

theorem FaultyText.kind_mem (faulty : FaultyText text fault) : fault.kind ∈ faultKinds := by
  cases faulty with
  | oversize _ _ large =>
      cases large with
      | code =>
          split
          · decide
          · exact isOfValue_wrongValue _
      | version => exact isOfValue_wrongValue _
  | value _ _ nearest => exact flaws_isOfValue _ _ nearest.mem

end

end Yaml

/-! ### Faults of files -/

/-- The fault gets out of what a path leads to. -/
inductive FileState.Escapes : FileState → Fault → Prop where
  | undecodable {bytes : List UInt8} {remark : Yaml.Remark}
      (undecoded : Text.Utf8.decode? bytes = none) (short : bytes.length < RuleFile.pieceSize) :
      Escapes (.content bytes remark) .undecodable
  | faulty {bytes : List UInt8} {remark : Yaml.Remark} {text : List Char} {fault : Fault}
      (decoded : Text.Utf8.decode? bytes = some text)
      (faulty : Yaml.FaultyText (Text.unifyBreaks text) fault) :
      Escapes (.content bytes remark) fault

/-- The kinds of the faults that get out of files. -/
def escapingKinds : List String := "UnicodeDecodeError" :: Yaml.faultKinds

theorem FileState.Escapes.kind_mem {state : FileState} {fault : Fault}
    (escapes : state.Escapes fault) : fault.kind ∈ escapingKinds := by
  cases escapes with
  | undecodable => exact List.mem_cons_self
  | faulty _ faulty => exact List.mem_cons_of_mem _ faulty.kind_mem

/-- The trouble with the bytes of a file, if there is any. -/
def RuleFile.trouble? (bytes : List UInt8) : Option Yaml.Trouble :=
  match read bytes with
  | .ok _ => none
  | .error trouble => some trouble

theorem RuleFile.trouble?_eq_some_iff {bytes : List UInt8} {trouble : Yaml.Trouble} :
    trouble? bytes = some trouble ↔ read bytes = .error trouble := by
  cases found : read bytes <;> simp [trouble?, found]

/-- What a path leads to is followed to its end. -/
def FileState.Followed : FileState → Prop
  | .content bytes _ => RuleFile.trouble? bytes ≠ some .beyond
  | _ => True

/-- What may keep a file from being followed: it is long, and some of its bytes or its characters
are not right; or it has an escape for half a character, or an alias, or a mapping with merges. -/
inductive Strays (bytes : List UInt8) : Prop where
  | long (long : RuleFile.pieceSize ≤ bytes.length)
      (unfit : ∀ text ∈ Text.Utf8.decode? bytes,
        (Text.unifyBreaks text).all Yaml.isAllowed = false) : Strays bytes
  | half {text : List Char} (decoded : Text.Utf8.decode? bytes = some text)
      (half : Yaml.Halved (Text.unifyBreaks text)) : Strays bytes
  | alias {text : List Char} {name : String} (decoded : Text.Utf8.decode? bytes = some text)
      (among : .alias name ∈ Yaml.Token.ofText (Text.unifyBreaks text)) : Strays bytes
  | merges {text : List Char} {node : Yaml.Node} (decoded : Text.Utf8.decode? bytes = some text)
      (parsed : Yaml.Node.ofTokens (Yaml.Token.ofText (Text.unifyBreaks text)) = .ok (some node))
      (merges : node.hasMerges = true) : Strays bytes

namespace RuleFile

variable {bytes : List UInt8}

theorem read_eq_fault {fault : Fault} (remark : Yaml.Remark)
    (failed : read bytes = .error (.fault fault)) :
    (FileState.content bytes remark).Escapes fault := by
  unfold read at failed
  split at failed
  next undecoded =>
    split at failed
    next short =>
      obtain rfl : Fault.undecodable = fault := by simpa using failed
      exact .undecodable undecoded short
    next => cases failed
  next text decoded =>
    split at failed
    next => exact .faulty decoded (Yaml.read_eq_fault_iff.1 failed)
    next => cases failed

/-- A file that is not followed strays. -/
theorem strays_of_read (left : read bytes = .error .beyond) : Strays bytes := by
  unfold read at left
  split at left
  next undecoded =>
    split at left
    next => cases left
    next long => exact .long (Nat.not_lt.1 long) (by simp [undecoded])
  next text decoded =>
    split at left
    next =>
      obtain half | ⟨name, among⟩ | ⟨node, parsed, merges⟩ := Yaml.read_eq_beyond left
      · exact .half decoded half
      · exact .alias decoded among
      · exact .merges decoded parsed merges
    next unfit =>
      rw [Bool.or_eq_true, decide_eq_true_iff, not_or] at unfit
      refine .long (Nat.not_lt.1 unfit.1) fun found same => ?_
      obtain rfl : text = found := Option.some.inj (decoded.symm.trans same)
      exact Bool.eq_false_iff.2 unfit.2

end RuleFile

theorem FileState.followed_or_strays (bytes : List UInt8) (remark : Yaml.Remark) :
    (content bytes remark).Followed ∨ Strays bytes := by
  by_cases left : RuleFile.trouble? bytes = some .beyond
  · exact .inr (RuleFile.strays_of_read (RuleFile.trouble?_eq_some_iff.1 left))
  · exact .inl left

/-! ### Sources -/

/-- A source delivers such a document, or it reports that the rules could not be loaded. -/
inductive Fetched.Contained (delivered : Document → Prop) : Fetched → Prop where
  | document {document : Document} (as : delivered document) :
      Contained delivered (.ok (.document document))
  | reported {report : Report} (kind : report.kind = .ruleLoad) :
      Contained delivered (.error (.report report))

/-- The document is a mapping. -/
def Document.IsMapping (document : Document) : Prop := ∃ members, document = .object members

open Fetched (Contained)

theorem RuleFile.envelope_contained (path : String) (value : Document) :
    Contained Document.IsMapping (envelope path value) := by
  cases value
  case null => exact .document ⟨_, rfl⟩
  case array items => exact .document ⟨_, rfl⟩
  case object members => exact .document ⟨members, rfl⟩
  all_goals exact .reported rfl

variable (file : RuleFile) (engine : Engine)

/-- A file that is followed is contained, or a fault gets out of it. -/
theorem RuleFile.fetch_cases (followed : file.state.Followed) :
    Contained Document.IsMapping (file.fetch engine).1 ∨
      ∃ fault, file.state.Escapes fault ∧ (file.fetch engine).1 = .error (.fault fault) := by
  obtain ⟨path, state⟩ := file
  rw [fetch]
  cases state with
  | missing => exact .inl (.reported rfl)
  | directory => exact .inl (.reported rfl)
  | content bytes remark =>
      dsimp only [ending]
      cases found : read bytes with
      | ok value => exact .inl (envelope_contained _ _)
      | error trouble =>
          cases trouble with
          | malformed => exact .inl (.reported rfl)
          | fault fault => exact .inr ⟨fault, read_eq_fault remark found, rfl⟩
          | beyond => exact absurd (trouble?_eq_some_iff.2 found) followed

/-- What gets out of a file is what fetching it fails with. -/
theorem FileState.Escapes.fetch {file : RuleFile} {fault : Fault}
    (escapes : file.state.Escapes fault) :
    (file.fetch engine).1 = .error (.fault fault) := by
  obtain ⟨path, state⟩ := file
  cases escapes with
  | undecodable undecoded short =>
      simp [RuleFile.fetch, RuleFile.ending, RuleFile.read, undecoded, short]
  | @faulty bytes _ _ _ decoded faulty =>
      have read : RuleFile.read bytes = .error (.fault fault) := by
        rw [RuleFile.read, decoded]
        dsimp only
        rw [faulty.allowed, Bool.or_true, if_pos rfl, Yaml.read_eq_fault_iff.2 faulty]
      simp [RuleFile.fetch, RuleFile.ending, read]

theorem RuleFile.fetch_eq_fault_iff (followed : file.state.Followed) (fault : Fault) :
    (file.fetch engine).1 = .error (.fault fault) ↔ file.state.Escapes fault := by
  refine ⟨fun failed => ?_, fun escapes => escapes.fetch engine⟩
  obtain contained | ⟨found, escapes, came⟩ := file.fetch_cases engine followed
  · rw [failed] at contained
    cases contained
  · obtain rfl : found = fault := by simpa [came] using failed
    exact escapes

/-- A source on the network is contained: it delivers nothing but what the body of a plain success
is read as. -/
theorem RuleAddress.fetch_contained (address : RuleAddress) (reply : Reply) :
    Contained
      (fun document => ∃ body, reply = .answered success body ∧ readBody? body = some document)
      (address.fetch reply engine).1 := by
  cases reply with
  | failed message => exact .reported rfl
  | answered status body =>
      rw [fetch]
      split
      next => exact .reported rfl
      next plain =>
        obtain rfl : status = success := by simpa using plain
        split
        next document read => exact .document ⟨body, rfl, read⟩
        next => exact .reported rfl

end AccessRules
