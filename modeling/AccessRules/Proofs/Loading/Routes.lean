import AccessRules.Proofs.Loading.Serve
import AccessRules.Source.File

/-!
# All routes to a resolver agree

The same inputs reach a resolver on many routes: in memory, one by one, through a loader, in several
envelopes that a fetch brings, in a file, and through a client. On the way they are made rules once,
twice or three times, by different readers. `Brings` lists the fetches that bring the inputs, and
`Reached` the routes with what each comes to.

**`Engine.routes_agree`** says that it makes no difference: either some input is no rule and every
route fails, or every route ends with a resolver over exactly the rules that the inputs describe, in
their order, which decides every request alike.
-/

namespace AccessRules

/-- The document of a payload lists the items: it is the bare list, or an object whose member `data`
is. -/
inductive Document.Lists (items : List Document) : Document → Prop where
  | bare : Lists items (.array items)
  | envelope {members : Members} (data : members.get? "data" = some (.array items)) :
      Lists items (.object members)

/-- The file holds the YAML text of the document. -/
def RuleFile.Holds (file : RuleFile) (document : Document) : Prop :=
  ∃ bytes remark text, file.state = .content bytes remark ∧
    Text.Utf8.decode? bytes = some text ∧ Yaml.read (Text.unifyBreaks text) = .ok document

/-- The fetches that bring the inputs. -/
inductive Brings (inputs : List RuleInput) : (Engine → Fetched × Engine) → Prop where
  | list : Brings inputs fun engine => (.ok (.inputs inputs), engine)
  | envelope (others : Members) :
      Brings inputs fun engine => (.ok (Envelope.mk inputs others).payload, engine)
  /-- The envelope is checked as a whole before it is delivered. -/
  | checked : Brings inputs fun engine => ((Envelope.ofInputs inputs).map .checked, engine)
  | document {items : List Document} {document : Document}
      (described : inputs = items.map .document) (lists : document.Lists items) :
      Brings inputs fun engine => (.ok (.document document), engine)
  | checkedDocument {items : List Document} {members : Members}
      (described : inputs = items.map .document)
      (data : members.get? "data" = some (.array items)) :
      Brings inputs fun engine => ((Envelope.ofDocument (.object members)).map .checked, engine)
  | file {items : List Document} {document : Document} {file : RuleFile}
      (described : inputs = items.map .document) (lists : document.Lists items)
      (holds : file.Holds document) : Brings inputs file.fetch

namespace Engine

/-- What a route comes to: the number of the resolver with the engine that has it, or a failure. -/
abbrev Built := Except Failure (Nat × Engine)

/-- The routes from the inputs to a resolver, by what each comes to. Whatever the engine did before
is left open. -/
inductive Reached (evaluator : Evaluator) (collector : Option String) (inputs : List RuleInput) :
    Built → Prop where
  | memory (engine : Engine) :
      Reached evaluator collector inputs (engine.newResolver evaluator collector inputs)
  | oneByOne (engine : Engine) :
      Reached evaluator collector inputs do
        let (number, engine) ← engine.newResolver evaluator collector []
        return (number, ← engine.addAll number inputs)
  | source (engine : Engine) :
      Reached evaluator collector inputs
        (let (result, engine) := engine.loadFromSource evaluator collector (.ok inputs)
        result.map (·, engine))
  | fetch (engine : Engine) {fetch : Engine → Fetched × Engine} (brings : Brings inputs fetch) :
      Reached evaluator collector inputs
        (let (fetched, engine) := fetch engine
        let (result, engine) := engine.loadFromFetch evaluator collector fetched
        result.map (·, engine))
  | clientFetch (engine : Engine) {fetch : Engine → Fetched × Engine}
      (brings : Brings inputs fetch) :
      Reached evaluator collector inputs
        (let (result, _, engine) :=
          (Client.new evaluator collector).initializeByFetch engine fetch
        result.map (·, engine))
  | clientMemory (engine : Engine) :
      Reached evaluator collector inputs
        (let (result, _, engine) :=
          (Client.new evaluator collector).initializeFromRules engine inputs
        result.map (·, engine))

/-- The route ended with a resolver over the rules: it lists them, and every request is decided as
they call for. -/
def HoldsRules (rules : List Rule) (evaluator : Evaluator) (built : Built) : Prop :=
  ∃ number engine service, built = .ok (number, engine) ∧
    engine.services[number]? = some service ∧ service.resolver.store.view = rules ∧
    ∀ subject resource action, (engine.decide service subject resource action).1 =
      (Resolver.over rules evaluator).decide subject resource action

variable {evaluator : Evaluator} {collector : Option String} {inputs : List RuleInput}
  {rules : List Rule}

theorem Serves.holdsRules {engine : Engine} {number : Nat} {service : Service}
    (serves : engine.Serves number rules evaluator service) :
    HoldsRules rules evaluator (.ok (number, engine)) :=
  ⟨number, engine, service, rfl, serves.found, serves.view_eq, serves.decide_eq⟩

/-! ### What fetches bring -/

end Engine

theorem Document.Lists.rules_eq {items : List Document} {document : Document}
    (lists : document.Lists items) :
    (Payload.document document).rules = parseRules (items.map .document) := by
  cases lists with
  | bare => rfl
  | envelope data => simp [Payload.rules, data]

/-- What a file brings is the envelope of its document. -/
theorem RuleFile.Holds.fetch_eq_envelope {file : RuleFile} {document : Document}
    (holds : file.Holds document) (engine : Engine) :
    file.fetch engine = (envelope (plainPath file.path) document, engine) := by
  obtain ⟨bytes, remark, text, state, decoded, read⟩ := holds
  simp [fetch, state, ending, read_of_text decoded read]

/-- A bare list in a file is put into an envelope, and an envelope is taken as it is. -/
theorem RuleFile.Holds.fetch_eq {file : RuleFile} {items : List Document} {document : Document}
    (holds : file.Holds document) (lists : document.Lists items) (engine : Engine) :
    ∃ enveloped, file.fetch engine = (.ok (.document enveloped), engine) ∧
      enveloped.Lists items := by
  rw [holds.fetch_eq_envelope]
  cases lists with
  | bare => exact ⟨.record [("data", .array items)], rfl, .envelope rfl⟩
  | @envelope members data => exact ⟨.object members, rfl, .envelope data⟩

/-- Whatever is fetched brings exactly the rules that the inputs describe. -/
theorem Brings.rules_of_describe {inputs : List RuleInput} {rules : List Rule}
    {fetch : Engine → Fetched × Engine} (brings : Brings inputs fetch)
    (describe : Describe inputs rules) (engine : Engine) :
    (fetch engine).1.rules = .ok rules := by
  have parsed := parseRules_of_describe describe
  cases brings with
  | list => exact parsed
  | envelope others => exact parsed
  | checked => rw [Envelope.ofInputs_of_describe describe]; rfl
  | document described lists =>
      subst described
      exact lists.rules_eq.trans parsed
  | checkedDocument described data =>
      subst described
      simp only [Envelope.ofDocument, data, Envelope.ofInputs_of_describe describe]
      rfl
  | file described lists holds =>
      subst described
      obtain ⟨enveloped, fetched, lists⟩ := holds.fetch_eq lists engine
      rw [fetched]
      exact lists.rules_eq.trans parsed

theorem Brings.rules_of_refused {inputs : List RuleInput} {index : Nat} {failure : Failure}
    {fetch : Engine → Fetched × Engine} (brings : Brings inputs fetch)
    (refused : Refused inputs index failure) (engine : Engine) :
    ∃ other, (fetch engine).1.rules = .error other := by
  have parsed := parseRules_of_refused refused
  obtain ⟨other, checked⟩ := Envelope.ofInputs_of_refused refused
  cases brings with
  | list => exact ⟨_, parsed⟩
  | envelope others => exact ⟨_, parsed⟩
  | checked => exact ⟨other, by rw [checked]; rfl⟩
  | document described lists =>
      subst described
      exact ⟨_, lists.rules_eq.trans parsed⟩
  | checkedDocument described data =>
      subst described
      refine ⟨other, ?_⟩
      simp only [Envelope.ofDocument, data, checked]
      rfl
  | file described lists holds =>
      subst described
      obtain ⟨enveloped, fetched, lists⟩ := holds.fetch_eq lists engine
      rw [fetched]
      exact ⟨_, lists.rules_eq.trans parsed⟩

namespace Engine

variable {evaluator : Evaluator} {collector : Option String} {inputs : List RuleInput}
  {rules : List Rule} {built : Built}

/-! ### What routes come to -/

theorem Reached.holdsRules (reached : Reached evaluator collector inputs built)
    (describe : Describe inputs rules) : HoldsRules rules evaluator built := by
  have parsed := parseRules_of_describe describe
  cases reached with
  | memory engine =>
      obtain ⟨next, service, made, serves⟩ := newResolver_serves describe engine evaluator collector
      rw [made]
      exact serves.holdsRules
  | oneByOne engine =>
      obtain ⟨next, service, made, serves⟩ :=
        newResolver_serves (describe_nil_iff.2 rfl) engine evaluator collector
      obtain ⟨last, grown, added, serves⟩ := serves.addAll describe
      simp only [made, added, bind, Except.bind, pure, Except.pure]
      exact serves.holdsRules
  | source engine =>
      obtain ⟨next, service, finished, serves⟩ :=
        finishLoad_serves rules engine evaluator collector
      simp only [loadFromSource, bind, Except.bind, parsed, finished]
      exact serves.holdsRules
  | @fetch engine source brings =>
      obtain ⟨next, service, finished, serves⟩ :=
        finishLoad_serves rules (source engine).2 evaluator collector
      simp only [loadFromFetch, brings.rules_of_describe describe engine, finished]
      exact serves.holdsRules
  | @clientFetch engine source brings =>
      obtain ⟨next, service, finished, serves⟩ :=
        Client.finish_of_ok (brings.rules_of_describe describe engine)
          { Client.new evaluator collector with turn := some 0 } (source engine).2
      simp only [Client.initializeByFetch_new, finished]
      exact serves.holdsRules
  | clientMemory engine =>
      have fresh : (Client.new evaluator collector).resolver = none := rfl
      obtain ⟨next, service, finished, serves⟩ :=
        Client.initializeFromRules_of_describe fresh describe engine
      simp only [finished]
      exact serves.holdsRules

theorem Reached.fails {index : Nat} {failure : Failure}
    (reached : Reached evaluator collector inputs built)
    (refused : Refused inputs index failure) : ∃ other, built = .error other := by
  cases reached with
  | memory engine =>
      exact ⟨failure, newResolver_of_error (Store.rulesOf_of_refused refused) engine evaluator
        collector⟩
  | oneByOne engine =>
      obtain ⟨next, service, made, serves⟩ :=
        newResolver_serves (describe_nil_iff.2 rfl) engine evaluator collector
      have added := serves.addAll_of_refused refused
      exact ⟨failure, by simp only [made, added, bind, Except.bind]⟩
  | source engine =>
      have parsed := parseRules_of_refused refused
      exact ⟨_, by simp only [loadFromSource, bind, Except.bind, parsed, finishLoad_of_error]; rfl⟩
  | fetch engine brings =>
      obtain ⟨other, brought⟩ := brings.rules_of_refused refused engine
      exact ⟨other, by simp only [loadFromFetch, brought, finishLoad_of_error]; rfl⟩
  | clientFetch engine brings =>
      obtain ⟨other, brought⟩ := brings.rules_of_refused refused engine
      refine ⟨other, ?_⟩
      simp only [Client.initializeByFetch_new, Client.finish_of_error brought]
      rfl
  | clientMemory engine =>
      have fresh : (Client.new evaluator collector).resolver = none := rfl
      have made := Client.initializeFromRules_of_refused fresh refused engine
      exact ⟨failure, by simp only [made]; rfl⟩

/-- Whatever the inputs are, rules and documents mixed: if one of them is no rule, every route
fails; otherwise every route ends with a resolver over the rules that the inputs describe, none
lost, doubled or moved, and so with the same decision on every request. -/
theorem routes_agree (evaluator : Evaluator) (collector : Option String)
    (inputs : List RuleInput) :
    ((∃ input ∈ inputs, ∃ failure, input.toRule = .error failure) ∧
      ∀ built, Reached evaluator collector inputs built → ∃ failure, built = .error failure) ∨
    ∃ rules, inputs.map RuleInput.toRule = rules.map .ok ∧
      ∀ built, Reached evaluator collector inputs built → HoldsRules rules evaluator built := by
  obtain ⟨rules, describe⟩ | ⟨index, failure, refused⟩ := describe_or_refused inputs
  · exact Or.inr ⟨rules, describe, fun built reached => reached.holdsRules describe⟩
  · obtain ⟨input, among, fails⟩ := refused.exists_mem
    exact Or.inl ⟨⟨input, among, failure, fails⟩, fun built reached => reached.fails refused⟩

/-- A rule and a document in an envelope with a member more. -/
theorem routes_agree_on_mixed_envelope :
    HoldsRules
      [⟨"document", "read", none, none, nofun⟩,
        ⟨"document", "edit", some ["admin"], none, nofun⟩]
      .standard
      (let (result, engine) := Engine.initial.loadFromFetch .standard none
        (.ok (Envelope.mk
          [.rule ⟨"document", "read", none, none, nofun⟩,
            .document (.record [("resource", .text "document"), ("action", .text "edit"),
              ("allowed_roles", .texts ["admin"])])]
          [(.text "version", .int 1)]).payload)
      result.map (·, engine)) := by
  obtain ⟨⟨input, among, failure, fails⟩, -⟩ | ⟨rules, made, holds⟩ :=
    routes_agree .standard none
      [.rule ⟨"document", "read", none, none, nofun⟩,
        .document (.record [("resource", .text "document"), ("action", .text "edit"),
          ("allowed_roles", .texts ["admin"])])]
  · obtain rfl | rfl : input = _ ∨ input = _ := by simpa using among
    · cases fails
    · cases fails
  · obtain rfl : [⟨"document", "read", none, none, nofun⟩,
        ⟨"document", "edit", some ["admin"], none, nofun⟩] = rules :=
      (List.map_inj_right fun _ _ => Except.ok.inj).1 made
    exact holds _ (.fetch .initial (.envelope [(.text "version", .int 1)]))

end Engine

end AccessRules
