import AccessRules.Proofs.Loading.Routes
import AccessRules.Proofs.Source.Encoding
import AccessRules.Proofs.Spelling.Json
import AccessRules.Proofs.Spelling.Value
import AccessRules.Source.Http

/-!
# Files and the network read the same document

A file of rules is read as YAML, a reply from the network as JSON. Where the bytes spell a document
(`Spelled`) both come to that document, and the rules that are loaded are the same.

A file that holds nothing but `null` counts as empty, and `null` from the network is refused; so
the document must not be `null`. Nor do the readers agree on every JSON text: an exponent without a
fraction is a number to one, and a text to the other.

* `Engine.sources_agree` — both ways lead to resolvers over the same rules, or both fail.
-/

namespace AccessRules

/-- The bytes are UTF-8 for a spelling with blanks around it. -/
def Spelled (bytes : List UInt8) (spelling : Spelling) : Prop :=
  ∃ before after : Spelling.Gap,
    Text.Utf8.decode? bytes = some (before.chars ++ spelling.write after.chars)

variable {bytes : List UInt8} {spelling : Spelling}

/-! ### Reading -/

/-- A spelling begins with a plain character, whatever blanks are around it. -/
theorem Spelling.text_eq_cons (before after : Gap) (spelling : Spelling) :
    ∃ c rest, before.chars ++ spelling.write after.chars = c :: rest ∧ c.toNat < 0x80 := by
  cases shape : before.chars with
  | nil =>
      obtain ⟨c, rest, same, first⟩ := spelling.write_eq_cons after.chars
      have plain : ∀ c ∈ startAlphabet, c.toNat < 0x80 := List.all_iff_forall_prop.1 (by decide)
      exact ⟨c, rest, same, plain c first⟩
  | cons c rest =>
      refine ⟨c, _, rfl, ?_⟩
      obtain rfl | rfl | rfl := before.blank c (shape ▸ List.mem_cons_self) <;> decide

theorem Spelled.readBody?_eq_some (spelled : Spelled bytes spelling) :
    RuleAddress.readBody? bytes = some spelling.document := by
  obtain ⟨before, after, decoded⟩ := spelled
  obtain ⟨c, rest, shape, plain⟩ := spelling.text_eq_cons before after
  have nonzero : '\x00' ∉ before.chars ++ spelling.write after.chars := fun among =>
    absurd (Yaml.allowed_text before after spelling _ among) (by decide)
  have read := Text.Encoding.read?_of_plain (shape ▸ decoded) plain (shape ▸ nonzero)
  rw [RuleAddress.readBody?, read, ← shape]
  exact Json.read?_write before after spelling

theorem Spelled.holds (spelled : Spelled bytes spelling) {file : RuleFile}
    {remark : Yaml.Remark} (content : file.state = .content bytes remark) :
    file.Holds spelling.document := by
  obtain ⟨before, after, decoded⟩ := spelled
  exact ⟨bytes, remark, _, content, decoded, Yaml.read_write before after spelling⟩

/-! ### Fetching -/

/-- What the network brings is the document. -/
theorem RuleAddress.fetch_of_spelled (spelled : Spelled bytes spelling) (address : RuleAddress)
    (engine : Engine) :
    (address.fetch (.answered success bytes) engine).1 = .ok (.document spelling.document) := by
  simp [fetch, spelled.readBody?_eq_some]

/-- What a file brings has the rules of the document, or neither has any. -/
theorem RuleFile.Holds.rules_eq {file : RuleFile} {document : Document}
    (holds : file.Holds document) (filled : document ≠ .null) (engine : Engine) :
    (file.fetch engine).1.rules = (Payload.document document).rules ∨
      ∃ failure refused, (file.fetch engine).1.rules = .error failure ∧
        (Payload.document document).rules = .error refused := by
  rw [holds.fetch_eq_envelope]
  cases document with
  | null => contradiction
  | array items => exact Or.inl rfl
  | object members => exact Or.inl rfl
  | _ => exact Or.inr ⟨_, _, rfl, rfl⟩

namespace Engine

/-- What loading by a fetch comes to. -/
def loadBy (engine : Engine) (evaluator : Evaluator) (collector : Option String)
    (fetch : Engine → Fetched × Engine) : Built :=
  let (fetched, engine) := fetch engine
  let (result, engine) := engine.loadFromFetch evaluator collector fetched
  result.map (·, engine)

variable {evaluator : Evaluator} {collector : Option String}

theorem loadBy_of_rules {engine : Engine} {fetch : Engine → Fetched × Engine} {rules : List Rule}
    (fetched : (fetch engine).1.rules = .ok rules) :
    HoldsRules rules evaluator (engine.loadBy evaluator collector fetch) := by
  obtain ⟨next, service, finished, serves⟩ :=
    finishLoad_serves rules (fetch engine).2 evaluator collector
  simp only [loadBy, loadFromFetch, fetched, finished]
  exact serves.holdsRules

theorem loadBy_of_error {engine : Engine} {fetch : Engine → Fetched × Engine} {failure : Failure}
    (fetched : (fetch engine).1.rules = .error failure) :
    engine.loadBy evaluator collector fetch = .error failure := by
  simp only [loadBy, loadFromFetch, fetched, finishLoad_of_error]
  rfl

/-- **A file and a reply with the same bytes agree** where the bytes spell a document that is not
null: both loads end with resolvers over the rules of the document, or both fail since it has
none. -/
theorem sources_agree (spelled : Spelled bytes spelling) (filled : spelling.document ≠ .null)
    {file : RuleFile} {remark : Yaml.Remark} (content : file.state = .content bytes remark)
    (address : RuleAddress) (evaluator : Evaluator) (collector : Option String)
    (engine other : Engine) :
    let fromFile := engine.loadBy evaluator collector file.fetch
    let fromNetwork := other.loadBy evaluator collector
      (address.fetch (.answered RuleAddress.success bytes))
    (∃ rules, (Payload.document spelling.document).rules = .ok rules ∧
        HoldsRules rules evaluator fromFile ∧ HoldsRules rules evaluator fromNetwork) ∨
      ((∃ failure, (Payload.document spelling.document).rules = .error failure) ∧
        (∃ failure, fromFile = .error failure) ∧ ∃ failure, fromNetwork = .error failure) := by
  intro fromFile fromNetwork
  have holds : file.Holds spelling.document := spelled.holds content
  have ofNetwork : (address.fetch (.answered RuleAddress.success bytes) other).1.rules =
      (Payload.document spelling.document).rules := by
    rw [address.fetch_of_spelled spelled]
    rfl
  obtain ofFile | ⟨failure, refused, ofFile, described⟩ := holds.rules_eq filled engine
  · cases described : (Payload.document spelling.document).rules with
    | ok rules =>
        exact Or.inl ⟨rules, rfl, loadBy_of_rules (ofFile.trans described),
          loadBy_of_rules (ofNetwork.trans described)⟩
    | error failure =>
        exact Or.inr ⟨⟨failure, rfl⟩, ⟨failure, loadBy_of_error (ofFile.trans described)⟩,
          ⟨failure, loadBy_of_error (ofNetwork.trans described)⟩⟩
  · exact Or.inr ⟨⟨refused, described⟩, ⟨failure, loadBy_of_error ofFile⟩,
      ⟨refused, loadBy_of_error (ofNetwork.trans described)⟩⟩

end Engine

/-! ### Two texts -/

namespace Spelling

/-- Blanks that have been checked. -/
def Gap.of (chars : List Char)
    (blank : (chars.all fun c => c = ' ' ∨ c = '\n' ∨ c = '\r') = true := by decide) : Gap :=
  ⟨chars, List.all_iff_forall_prop.1 blank⟩

/-- Digits that have been checked. -/
def Digits.of (chars : List Char) (nonempty : chars ≠ [] := by decide)
    (digits : chars.all Number.isPlainDigit = true := by decide) : Digits :=
  ⟨chars, nonempty, List.all_eq_true.1 digits⟩

/-- Characters that stand for themselves, and have been checked. -/
def plainLetters (text : List Char) (plain : (text.all fun c => Yaml.isAllowed c = true ∧
    Yaml.isBreak c = false ∧ 0x20 ≤ c.toNat ∧ (c ≠ '"' ∧ c ≠ '\\')) = true := by decide) :
    List Letter :=
  text.pmap (fun c fits => .plain c fits.1 fits.2.1 fits.2.2.1 fits.2.2.2)
    (List.all_iff_forall_prop.1 plain)

end Spelling

namespace Engine

open Spelling

/-- Several lines with an escape and an exponent. -/
theorem sources_agree_on_escape_and_exponent :
    let bytes := plainBytes ("[\r\n  \x7b\"resource\" : \"caf\\u00e9\",\n   \"action\":\"a\", " ++
      "\"attributeCondition\":\x7b\"!\":-1.5E+2\x7d \x7d\n]\n")
    let rules : List Rule := [⟨"café", "a", none,
      some (.record [("!", .float ((Number.DecimalParts.mk ['1'] ['5'] 2).toFloat true))]), nofun⟩]
    let remark : Yaml.Remark := ⟨"", .malformed⟩
    HoldsRules rules .standard
        (Engine.initial.loadBy .standard none
          (RuleFile.mk "rules.json" (.content bytes remark)).fetch) ∧
      HoldsRules rules .standard
        (Engine.initial.loadBy .standard none
          ((RuleAddress.ofParts (.text "http://rules") none none).fetch
            (.answered RuleAddress.success bytes))) := by
  intro bytes rules remark
  let tight := Gap.of []
  let number : Numeral := .float true ⟨Digits.of ['1'], by rintro _ ⟨⟩⟩ (Digits.of ['5'])
    (some ⟨true, false, Digits.of ['2']⟩)
  let word : List Letter := plainLetters "caf".toList ++
    [.code '0' '0' 'e' '9' 0xE9 rfl (by decide)]
  let condition : Spelling :=
    .object tight (.last ⟨plainLetters "!".toList, 0, tight, by decide⟩ (.number number) tight)
  let spelling : Spelling := .array (Gap.of "\r\n  ".toList) (.last
    (.object tight
      (.more ⟨plainLetters "resource".toList, 1, Gap.of [' '], by decide⟩ (.text word)
        tight (Gap.of "\n   ".toList)
      (.more ⟨plainLetters "action".toList, 0, tight, by decide⟩
        (.text (plainLetters ['a'])) tight (Gap.of [' '])
      (.last ⟨plainLetters "attributeCondition".toList, 0, tight, by decide⟩
        condition (Gap.of [' '])))))
    (Gap.of ['\n']))
  have spelled : Spelled bytes spelling := ⟨tight, Gap.of ['\n'], by decide +kernel⟩
  have described : (Payload.document spelling.document).rules = .ok rules := rfl
  have content : (RuleFile.mk "rules.json" (.content bytes remark)).state =
      .content bytes remark := rfl
  obtain ⟨made, same, fromFile, fromNetwork⟩ | ⟨⟨failure, refused⟩, -⟩ :=
    sources_agree spelled Document.noConfusion content
      (RuleAddress.ofParts (.text "http://rules") none none) .standard none .initial .initial
  · obtain rfl := Except.ok.inj (described.symm.trans same)
    exact ⟨fromFile, fromNetwork⟩
  · rw [described] at refused
    cases refused

/-- The kind of the first operand in the condition of the first rule. -/
def operandKind : List Rule → Option String
  | ⟨_, _, _, some (.object [(_, .array (operand :: _))]), _⟩ :: _ => some operand.kind
  | _ => none

theorem rules_of_operandKind {loaded : Except Failure (List Rule)} {kind : Option String}
    (found : loaded.toOption.map operandKind = some kind) :
    ∃ rules, loaded = .ok rules ∧ operandKind rules = kind := by
  cases loaded with
  | error failure => cases found
  | ok rules => exact ⟨rules, rfl, Option.some.inj found⟩

/-- An exponent without a fraction is a text in a file, and a number from the network. -/
theorem sources_disagree_on_exponent :
    let bytes := plainBytes ("\x7b\"data\":[\x7b\"resource\":\"d\",\"action\":\"a\"," ++
      "\"attributeCondition\":\x7b\"==\":[1e3,1000]\x7d\x7d]\x7d")
    let remark : Yaml.Remark := ⟨"", .malformed⟩
    ∃ fromFile fromNetwork,
      HoldsRules fromFile .standard
        (Engine.initial.loadBy .standard none
          (RuleFile.mk "rules.json" (.content bytes remark)).fetch) ∧
      HoldsRules fromNetwork .standard
        (Engine.initial.loadBy .standard none
          ((RuleAddress.ofParts (.text "http://rules") none none).fetch
            (.answered RuleAddress.success bytes))) ∧
      operandKind fromFile = some "str" ∧ operandKind fromNetwork = some "float" := by
  intro bytes remark
  have file : ((RuleFile.mk "rules.json" (.content bytes remark)).fetch
      .initial).1.rules.toOption.map operandKind = some (some "str") := by decide +kernel
  have network : (((RuleAddress.ofParts (.text "http://rules") none none).fetch
      (.answered RuleAddress.success bytes)) .initial).1.rules.toOption.map operandKind =
        some (some "float") := by decide +kernel
  obtain ⟨fromFile, loaded, kind⟩ := rules_of_operandKind file
  obtain ⟨fromNetwork, loaded', kind'⟩ := rules_of_operandKind network
  exact ⟨fromFile, fromNetwork, loadBy_of_rules loaded, loadBy_of_rules loaded', kind, kind'⟩

end Engine

end AccessRules
