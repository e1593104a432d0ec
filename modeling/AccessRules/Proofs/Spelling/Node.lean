import AccessRules.Proofs.Spelling.Tokens

/-!
# The nodes of spellings

Reading takes the tokens of one node, and leaves what is behind them and the anchors alone
(`Reads`); so what is read in parts is read as a whole. The nodes of a spelling are read from its
tokens by the shape of the spelling, if the bound is four times their number.

* `Spelling.node` — the node of a spelling;
* `Node.ofTokens_tokens` — it is read from the tokens.
-/

namespace AccessRules

namespace Spelling

open Yaml (Node Tag Token)

mutual

/-- The node of a document. -/
def node : Spelling → Node
  | .null => .scalar (Tag.ofPlain "null") "null"
  | .truth value =>
      .scalar (Tag.ofPlain (if value then "true" else "false")) (if value then "true" else "false")
  | .number numeral =>
      .scalar (Tag.ofPlain (String.ofList numeral.chars)) (String.ofList numeral.chars)
  | .text letters => .scalar .text (lettersText letters)
  | .emptyArray _ => .sequence .sequence []
  | .array _ items => .sequence .sequence items.nodes
  | .emptyObject _ => .mapping .mapping false []
  | .object _ fields => .mapping .mapping false fields.nodes

/-- The nodes of items. -/
def Items.nodes : Items → List Node
  | .last item _ => [item.node]
  | .more item _ _ rest => item.node :: rest.nodes

/-- The nodes of names and members. -/
def Fields.nodes : Fields → List (Node × Node)
  | .last name item _ => [(.scalar .text (lettersText name.letters), item.node)]
  | .more name item _ _ rest =>
      (.scalar .text (lettersText name.letters), item.node) :: rest.nodes

end

end Spelling

namespace Yaml

open Spelling Reading

/-! ### Readings -/

/-- The reading takes some tokens and gives a value, whatever is behind them. -/
def Reads {α : Type} (reading : Reading α) (tokens : List Token) (value : α) : Prop :=
  ∀ rest anchors, reading.run ⟨tokens ++ rest, anchors⟩ = .ok (value, ⟨rest, anchors⟩)

section Reads

variable {α β : Type} {f : α → Reading β} {a : α} {b : β} {front back tokens : List Token}
  {token : Token}

theorem Reads.nothing (a : α) : Reads (pure a) [] a := fun _ _ => rfl

theorem Reads.andThen {reading : Reading α} (first : Reads reading front a)
    (second : Reads (f a) back b) : Reads (reading >>= f) (front ++ back) b := by
  intro rest anchors
  rw [StateT.run_bind, List.append_assoc, first]
  exact second rest anchors

/-- What is given at the end is made of what has been read. -/
theorem Reads.map {reading : Reading α} (first : Reads reading tokens a) (g : α → β) :
    Reads (reading >>= fun a => pure (g a)) tokens (g a) := by
  rw [← List.append_nil tokens]
  exact first.andThen (Reads.nothing (g a))

/-- The token is none that reading fails at. -/
def Sound (token : Token) : Prop := ∀ trouble, token ≠ .broken trouble

theorem Sound.peek (sound : Sound token) (rest : List Token)
    (anchors : List (String × Option Node)) :
    peek.run ⟨token :: rest, anchors⟩ = .ok (token, ⟨token :: rest, anchors⟩) := by
  cases token <;> first | rfl | exact absurd rfl (sound _)

-- A reading that looks at the next token takes nothing by itself, so each of these is stated with
-- the reading that goes on behind it.
theorem Reads.peeked {f : Token → Reading β} (sound : Sound token)
    (rest : Reads (f token) (token :: tokens) b) : Reads (peek >>= f) (token :: tokens) b := by
  intro more anchors
  rw [StateT.run_bind, List.cons_append, sound.peek]
  exact rest more anchors

theorem Reads.advanced {f : Unit → Reading β} (rest : Reads (f ()) tokens b) :
    Reads (advance >>= f) (token :: tokens) b :=
  fun more anchors => rest more anchors

theorem Reads.accepted {f : Bool → Reading β} (sound : Sound token)
    (rest : Reads (f true) tokens b) : Reads (accept token >>= f) (token :: tokens) b := by
  intro more anchors
  rw [StateT.run_bind, accept, List.cons_append, StateT.run_bind, sound.peek]
  simp only [bind, Except.bind, beq_self_eq_true, if_true]
  exact rest more anchors

theorem Reads.declined {f : Bool → Reading β} {wanted : Token} (sound : Sound token)
    (other : token ≠ wanted) (rest : Reads (f false) (token :: tokens) b) :
    Reads (accept wanted >>= f) (token :: tokens) b := by
  intro more anchors
  rw [StateT.run_bind, accept, List.cons_append, StateT.run_bind, sound.peek]
  simp only [bind, Except.bind, beq_false_of_ne other, Bool.false_eq_true, if_false]
  exact rest more anchors

theorem Reads.elsewhere {f : Bool → Reading β} {ends : List Token} (sound : Sound token)
    (absent : ends.contains token = false) (rest : Reads (f false) (token :: tokens) b) :
    Reads (isAt ends >>= f) (token :: tokens) b := by
  rw [isAt, bind_assoc]
  refine Reads.peeked sound ?_
  rw [pure_bind, absent]
  exact rest

theorem Reads.needed {f : Unit → Reading β} (sound : Sound token) (rest : Reads (f ()) tokens b) :
    Reads (need token >>= f) (token :: tokens) b := by
  have taken : Reads (need token) [token] () := Reads.accepted sound (Reads.nothing ())
  exact taken.andThen rest

end Reads

/-! ### One reader after another -/

/-- The tokens that documents of spellings begin with. -/
inductive Opening : Token → Prop where
  | scalar (text : String) (plain : Bool) : Opening (.scalar text plain)
  | sequence : Opening .flowSequenceStart
  | mapping : Opening .flowMappingStart

/-- A document begins with such a token. -/
theorem tokens_eq_cons (spelling : Spelling) :
    ∃ token tokens, spelling.tokens = token :: tokens ∧ Opening token := by
  cases spelling with
  | null => exact ⟨_, _, rfl, .scalar _ _⟩
  | truth value => exact ⟨_, _, rfl, .scalar _ _⟩
  | number numeral => exact ⟨_, _, rfl, .scalar _ _⟩
  | text letters => exact ⟨_, _, rfl, .scalar _ _⟩
  | emptyArray inside => exact ⟨_, _, rfl, .sequence⟩
  | array before items => exact ⟨_, _, rfl, .sequence⟩
  | emptyObject inside => exact ⟨_, _, rfl, .mapping⟩
  | object before fields => exact ⟨_, _, rfl, .mapping⟩

section Opening

variable {handles : Handles} {standing : Standing} {bound : Nat} {token : Token}
  {tokens others : List Token} {node : Node} {nodes : List Node} {key value : Node}
  {pairs : List (Node × Node)}

theorem Opening.sound (opening : Opening token) : Sound token := by
  cases opening <;> exact fun trouble => Token.noConfusion

/-- No properties stand in front of a document. -/
theorem Opening.noProperties {α : Type} {f : Properties → Reading α} {a : α}
    (opening : Opening token) (rest : Reads (f ⟨none, none⟩) (token :: tokens) a) :
    Reads (properties >>= f) (token :: tokens) a := by
  intro more anchors
  cases opening <;> exact rest more anchors

theorem Opening.readsNode (opening : Opening token)
    (content : Reads (readContent handles standing false false none bound) (token :: tokens) node) :
    Reads (readNode handles standing (bound + 1)) (token :: tokens) node := by
  have rest := content.map id
  rw [readNode]
  refine Reads.peeked opening.sound ?_
  cases opening <;>
    exact Opening.noProperties (by constructor) fun more anchors => rest more anchors

theorem readContent_scalar (text : String) (plain : Bool) :
    Reads (readContent handles standing false false none (bound + 1)) [.scalar text plain]
      (.scalar (if plain then Tag.ofPlain text else .text) text) := by
  rw [readContent]
  refine Reads.peeked (Opening.scalar text plain).sound (Reads.advanced ?_)
  rw [Bool.or_false]
  exact Reads.nothing _

theorem readContent_sequence (items : Reads (readFlowItems handles true bound) tokens nodes) :
    Reads (readContent handles standing false false none (bound + 1))
      (.flowSequenceStart :: tokens) (.sequence .sequence nodes) := by
  rw [readContent]
  exact Reads.peeked Opening.sequence.sound (Reads.advanced (items.map (Node.sequence .sequence)))

/-- No pairs are merged when no key is a merge mark. -/
theorem ofPairs_own (own : ∀ pair ∈ pairs, pair.1.tag ≠ .merge) :
    Node.ofPairs .mapping pairs = .mapping .mapping false pairs := by
  have none : (pairs.filter fun pair => pair.1.tag == .merge) = [] :=
    List.filter_eq_nil_iff.2 fun pair among => by simpa using own pair among
  have all : (pairs.filter fun pair => !(pair.1.tag == .merge)) = pairs :=
    List.filter_eq_self.2 fun pair among => by simpa using own pair among
  rw [Node.ofPairs, List.partition_eq_filter_filter, none]
  simpa using all

theorem readContent_mapping (read : Reads (readFlowPairs handles true bound) tokens pairs)
    (own : ∀ pair ∈ pairs, pair.1.tag ≠ .merge) :
    Reads (readContent handles standing false false none (bound + 1))
      (.flowMappingStart :: tokens) (.mapping .mapping false pairs) := by
  have mapped := read.map (Node.ofPairs .mapping)
  rw [ofPairs_own own] at mapped
  rw [readContent]
  exact Reads.peeked Opening.mapping.sound (Reads.advanced mapped)

theorem Opening.other (opening : Opening token) :
    token ≠ .flowSequenceEnd ∧ token ≠ .key := by
  cases opening <;> exact ⟨Token.noConfusion, Token.noConfusion⟩

theorem Opening.readsUnless {ends : List Token} (opening : Opening token)
    (apart : ∀ wanted ∈ ends, ¬Opening wanted)
    (read : Reads (readNode handles standing bound) (token :: tokens) node) :
    Reads (readUnless handles standing ends (bound + 1)) (token :: tokens) node := by
  have absent : ends.contains token = false := by
    rw [List.contains_eq_mem, decide_eq_false_iff_not]
    exact fun among => apart token among opening
  rw [readUnless]
  exact Reads.elsewhere opening.sound absent read

theorem readFlowItems_end (first : Bool) :
    Reads (readFlowItems handles first (bound + 1)) [.flowSequenceEnd] [] := by
  rw [readFlowItems]
  exact Reads.accepted (fun _ => Token.noConfusion) (Reads.nothing [])

/-- One item more is read. Those that are not the first have a comma in front of them. -/
theorem reads_item (item : Spelling) (first : Bool)
    (read : Reads (readNode handles .flow bound) item.tokens node)
    (rest : Reads (readFlowItems handles false bound) others nodes) :
    Reads (readFlowItems handles first (bound + 1))
      ((if first then [] else [.flowEntry]) ++ (item.tokens ++ others)) (node :: nodes) := by
  have both : Reads (do
      let item ← readNode handles .flow bound
      return item :: (← readFlowItems handles false bound)) (item.tokens ++ others)
      (node :: nodes) := read.andThen (rest.map _)
  obtain ⟨token, tokens, same, opening⟩ := tokens_eq_cons item
  rw [same] at both ⊢
  have sound := opening.sound
  obtain ⟨noEnd, noKey⟩ := opening.other
  have entry : Sound .flowEntry := fun _ => Token.noConfusion
  rw [readFlowItems]
  cases first with
  | true => exact .declined sound noEnd (.declined sound noEnd (.declined sound noKey both))
  | false =>
      exact .declined entry (by decide)
        (.needed entry (.declined sound noEnd (.declined sound noKey both)))

theorem readFlowPairs_end (first : Bool) :
    Reads (readFlowPairs handles first (bound + 1)) [.flowMappingEnd] [] := by
  rw [readFlowPairs]
  exact Reads.accepted (fun _ => Token.noConfusion) (Reads.nothing [])

/-- A quoted name is a key, and a text whatever is in it. -/
theorem readUnless_name (text : String) :
    Reads (readUnless handles .flow [.value, .flowEntry, .flowMappingEnd] (bound + 3))
      [.scalar text false] (.scalar .text text) :=
  (Opening.scalar text false).readsUnless (by rintro _ among ⟨⟩ <;> simp at among)
    ((Opening.scalar text false).readsNode (readContent_scalar text false))

theorem reads_value (item : Spelling)
    (read : Reads (readNode handles .flow bound) item.tokens node) :
    Reads (readValue handles .flow [.flowEntry, .flowMappingEnd] (bound + 2))
      (.value :: item.tokens) node := by
  obtain ⟨token, tokens, same, opening⟩ := tokens_eq_cons item
  rw [same] at read ⊢
  rw [readValue]
  exact Reads.accepted (fun _ => Token.noConfusion)
    (opening.readsUnless (by rintro _ among ⟨⟩ <;> simp at among) read)

/-- One member more is read. The bound falls by one in each reader: from the pairs to the value, to
what may be missing, and to the node. -/
theorem reads_pair (name : Name) (item : Spelling) (first : Bool)
    (read : Reads (readNode handles .flow (bound + 1)) item.tokens node)
    (rest : Reads (readFlowPairs handles false (bound + 3)) others pairs) :
    Reads (readFlowPairs handles first (bound + 4))
      ((if first then [] else [.flowEntry]) ++ (name.tokens ++ (item.tokens ++ others)))
      ((.scalar .text (lettersText name.letters), node) :: pairs) := by
  have key : Sound .key := fun _ => Token.noConfusion
  have entry : Sound .flowEntry := fun _ => Token.noConfusion
  have both : Reads (do
      let key ← readUnless handles .flow [.value, .flowEntry, .flowMappingEnd] (bound + 3)
      let value ← readValue handles .flow [.flowEntry, .flowMappingEnd] (bound + 3)
      let pair ← pure (key, value)
      return pair :: (← readFlowPairs handles false (bound + 3)))
      (.scalar (lettersText name.letters) false :: .value :: (item.tokens ++ others))
      ((.scalar .text (lettersText name.letters), node) :: pairs) :=
    (readUnless_name _).andThen
      ((reads_value item read).andThen ((Reads.nothing _).andThen (rest.map _)))
  rw [readFlowPairs]
  cases first with
  | true => exact .declined key (by decide) (.declined key (by decide) (.accepted key both))
  | false =>
      exact .declined entry (by decide)
        (.needed entry (.declined key (by decide) (.accepted key both)))

end Opening

/-! ### Whole documents -/

/-- The keys of members are texts, whatever is in them. -/
theorem nodes_own (fields : Fields) : ∀ pair ∈ fields.nodes, pair.1.tag ≠ .merge := by
  cases fields with
  | last name item behind =>
      rw [Fields.nodes, List.forall_mem_singleton]
      exact Tag.noConfusion
  | more name item behind gap others =>
      rw [Fields.nodes, List.forall_mem_cons]
      exact ⟨Tag.noConfusion, nodes_own others⟩

section Reading

variable {handles : Handles} {standing : Standing}

theorem reads_scalar (text : String) (plain : Bool) {bound : Nat} (enough : 4 ≤ bound) :
    Reads (readNode handles standing bound) [.scalar text plain]
      (.scalar (if plain then Tag.ofPlain text else .text) text) := by
  obtain ⟨bound, rfl⟩ := Nat.exists_eq_add_of_le' enough
  exact (Opening.scalar text plain).readsNode (readContent_scalar text plain)

mutual

/-- **The node of a document is read** from its tokens. -/
theorem reads_tokens (spelling : Spelling) {handles : Handles} {standing : Standing} {bound : Nat}
    (enough : 4 * spelling.tokens.length ≤ bound) :
    Reads (readNode handles standing bound) spelling.tokens spelling.node := by
  cases spelling with
  | null => exact reads_scalar "null" true enough
  | truth value => exact reads_scalar _ true enough
  | number numeral => exact reads_scalar _ true enough
  | text letters => exact reads_scalar _ false enough
  | emptyArray inside =>
      obtain ⟨bound, rfl⟩ := Nat.exists_eq_add_of_le' enough
      exact Opening.sequence.readsNode (readContent_sequence (readFlowItems_end true))
  | emptyObject inside =>
      obtain ⟨bound, rfl⟩ := Nat.exists_eq_add_of_le' enough
      exact Opening.mapping.readsNode (readContent_mapping (readFlowPairs_end true) (by simp))
  | array before items =>
      rw [tokens, List.length_append, List.length_append, List.length_singleton,
        List.length_singleton] at enough
      obtain ⟨bound, rfl⟩ := Nat.exists_eq_add_of_le' (show 2 ≤ bound by omega)
      exact Opening.sequence.readsNode (readContent_sequence (reads_items items true (by omega)))
  | object before fields =>
      rw [tokens, List.length_append, List.length_append, List.length_singleton,
        List.length_singleton] at enough
      obtain ⟨bound, rfl⟩ := Nat.exists_eq_add_of_le' (show 2 ≤ bound by omega)
      exact Opening.mapping.readsNode
        (readContent_mapping (reads_fields fields true (by omega)) (nodes_own fields))

theorem reads_items (items : Items) (first : Bool) {handles : Handles} {bound : Nat}
    (enough : 4 * items.tokens.length + 2 ≤ bound) :
    Reads (readFlowItems handles first bound)
      ((if first then [] else [.flowEntry]) ++ (items.tokens ++ [.flowSequenceEnd]))
      items.nodes := by
  obtain ⟨bound, rfl⟩ := Nat.exists_eq_add_of_le' (show 2 ≤ bound by omega)
  cases items with
  | last item behind =>
      rw [Items.tokens] at enough
      exact reads_item item first (reads_tokens item (by omega)) (readFlowItems_end false)
  | more item behind gap others =>
      rw [Items.tokens, List.length_append, List.length_append, List.length_singleton] at enough
      rw [Items.tokens, List.append_assoc, List.append_assoc]
      exact reads_item item first (reads_tokens item (by omega))
        (reads_items others false (by omega))

theorem reads_fields (fields : Fields) (first : Bool) {handles : Handles} {bound : Nat}
    (enough : 4 * fields.tokens.length + 2 ≤ bound) :
    Reads (readFlowPairs handles first bound)
      ((if first then [] else [.flowEntry]) ++ (fields.tokens ++ [.flowMappingEnd]))
      fields.nodes := by
  cases fields with
  | last name item behind =>
      rw [Fields.tokens, List.length_append, Name.length_tokens] at enough
      obtain ⟨bound, rfl⟩ := Nat.exists_eq_add_of_le' (show 4 ≤ bound by omega)
      rw [Fields.tokens, List.append_assoc]
      exact reads_pair name item first (reads_tokens item (by omega)) (readFlowPairs_end false)
  | more name item behind gap others =>
      rw [Fields.tokens, List.length_append, List.length_append, List.length_append,
        List.length_singleton, Name.length_tokens] at enough
      obtain ⟨bound, rfl⟩ := Nat.exists_eq_add_of_le' (show 4 ≤ bound by omega)
      rw [Fields.tokens, List.append_assoc, List.append_assoc, List.append_assoc]
      exact reads_pair name item first (reads_tokens item (by omega))
        (reads_fields others false (by omega))

end

end Reading

theorem reads_document (spelling : Spelling) {bound : Nat}
    (enough : 4 * spelling.tokens.length ≤ bound) :
    Reads (readDocument (bound + 1)) (spelling.tokens ++ [.streamEnd]) (some spelling.node) := by
  have last : Sound .streamEnd := fun _ => Token.noConfusion
  have ends : Reads (readEnd (bound + 1)) [.streamEnd] () := by
    rw [readEnd, skipEnds, bind_assoc]
    refine Reads.declined last Token.noConfusion ?_
    rw [if_neg Bool.false_ne_true, pure_bind]
    exact Reads.accepted last (Reads.nothing ())
  have read : Reads (readNode Handles.standard .block (bound + 1)) spelling.tokens spelling.node :=
    reads_tokens spelling (by omega)
  have whole : Reads (do
      let node ← readNode Handles.standard .block (bound + 1)
      let node? ← pure (some node)
      readEnd (bound + 1)
      return node?) (spelling.tokens ++ [.streamEnd]) (some spelling.node) :=
    read.andThen ((Reads.nothing _).andThen (ends.map fun _ => some spelling.node))
  obtain ⟨token, tokens, same, opening⟩ := tokens_eq_cons spelling
  rw [same] at whole ⊢
  rw [readDocument]
  refine Reads.peeked opening.sound ?_
  cases opening <;> exact whole

/-- **The node of a text that is spelled** is the node of its document. -/
theorem Node.ofTokens_tokens (spelling : Spelling) :
    Node.ofTokens (spelling.tokens ++ [.streamEnd]) = .ok (some spelling.node) := by
  have enough : 4 * spelling.tokens.length ≤
      4 * (spelling.tokens ++ [Token.streamEnd]).length + 7 := by
    rw [List.length_append]
    omega
  have read := reads_document spelling enough [] []
  rw [List.append_nil] at read
  rw [Node.ofTokens, StateT.run'_eq, read]
  rfl

end Yaml

end AccessRules
