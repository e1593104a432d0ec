import AccessRules.Proofs.Spelling.Node

/-!
# YAML reads spellings

The node of a spelling stands for its document, and its text has no character that may not stand
in YAML texts. So YAML reads what is written.

* `Yaml.read_write` — the text of a spelling is read as its document.
-/

namespace AccessRules

namespace Yaml

open Spelling

/-! ### Values -/

theorem isCollection_eq_false {tag : Tag} {text : String} {value : Document}
    (read : scalarValue tag text = .ok value) : tag.isCollection = false := by
  cases tag <;> first | rfl | cases read

theorem Node.build_scalar {tag : Tag} {text : String} {value : Document}
    (read : scalarValue tag text = .ok value) : (Node.scalar tag text).build = .ok value := by
  have plain := isCollection_eq_false read
  simp only [Node.build, plain, Node.scalarBuilt, Node.scalarText, Node.tag, read]
  rfl

theorem Node.key_text (text : String) : (Node.scalar .text text).key = .ok (.text text) := rfl

mutual

/-- The node of a document has the document as its value. -/
theorem build_node (spelling : Spelling) : spelling.node.build = .ok spelling.document := by
  cases spelling with
  | null => exact Node.build_scalar scalarValue_null
  | truth value => exact Node.build_scalar (scalarValue_truth value)
  | number numeral => exact Node.build_scalar (scalarValue_number numeral)
  | text letters => rfl
  | emptyArray inside => rfl
  | emptyObject inside => rfl
  | array before items =>
      rw [node, Node.build, buildItems_nodes items]
      rfl
  | object before fields =>
      rw [node, Node.build, buildMembers_nodes fields]
      rfl

theorem buildItems_nodes (items : Items) :
    Node.buildItems items.nodes = .ok items.documents := by
  cases items with
  | last item behind =>
      rw [Items.nodes, Node.buildItems, build_node item]
      rfl
  | more item behind gap others =>
      rw [Items.nodes, Node.buildItems, build_node item, buildItems_nodes others]
      rfl

theorem buildMembers_nodes (fields : Fields) :
    Node.buildMembers fields.nodes = .ok fields.pairs := by
  cases fields with
  | last name item behind =>
      rw [Fields.nodes, Node.buildMembers, Node.key_text, build_node item]
      rfl
  | more name item behind gap others =>
      rw [Fields.nodes, Node.buildMembers, Node.key_text, build_node item,
        buildMembers_nodes others]
      rfl

end

/-! ### Characters -/

/-- All characters may stand in YAML texts. -/
def Allowed (text : List Char) : Prop := ∀ c ∈ text, isAllowed c = true

theorem Allowed.append {front rest : List Char} (first : Allowed front) (second : Allowed rest) :
    Allowed (front ++ rest) :=
  List.forall_mem_append.2 ⟨first, second⟩

theorem Allowed.cons {c : Char} {rest : List Char} (first : isAllowed c = true)
    (others : Allowed rest) : Allowed (c :: rest) :=
  List.forall_mem_cons.2 ⟨first, others⟩

theorem allowed_gap (gap : Gap) : Allowed gap.chars := by
  intro c among
  obtain rfl | rfl | rfl := gap.blank c among <;> rfl

theorem allowed_writeText (letters : List Letter) {rest : List Char} (allowed : Allowed rest) :
    Allowed (writeText letters rest) :=
  Allowed.cons rfl (Allowed.append (fun _ among => (mem_lettersChars among).1)
    (Allowed.cons rfl allowed))

theorem allowed_number (numeral : Numeral) : Allowed numeral.chars := by
  have all : ∀ c ∈ numeralAlphabet, isAllowed c = true := List.all_iff_forall_prop.1 (by decide)
  exact fun c among => all c (numeral.mem_alphabet among)

theorem allowed_name (name : Name) {rest : List Char} (allowed : Allowed rest) :
    Allowed (name.write rest) := by
  have spaces : Allowed (List.replicate name.spaces ' ') := by
    intro c among
    rw [List.eq_of_mem_replicate among]
    rfl
  exact allowed_writeText _ (spaces.append (Allowed.cons rfl ((allowed_gap _).append allowed)))

mutual

/-- The characters of spellings may stand in YAML texts. -/
theorem allowed_write (spelling : Spelling) {rest : List Char} (allowed : Allowed rest) :
    Allowed (spelling.write rest) := by
  cases spelling with
  | null => exact Allowed.append (List.all_iff_forall_prop.1 (by decide)) allowed
  | truth value =>
      have word : Allowed (if value then "true" else "false").toList := by
        cases value <;> exact List.all_iff_forall_prop.1 (by decide)
      exact word.append allowed
  | number numeral => exact (allowed_number numeral).append allowed
  | text letters => exact allowed_writeText letters allowed
  | emptyArray inside => exact .cons rfl ((allowed_gap inside).append (.cons rfl allowed))
  | emptyObject inside => exact .cons rfl ((allowed_gap inside).append (.cons rfl allowed))
  | array before items =>
      exact .cons rfl ((allowed_gap before).append (allowed_items items (.cons rfl allowed)))
  | object before fields =>
      exact .cons rfl ((allowed_gap before).append (allowed_fields fields (.cons rfl allowed)))

theorem allowed_items (items : Items) {rest : List Char} (allowed : Allowed rest) :
    Allowed (items.write rest) := by
  cases items with
  | last item behind => exact allowed_write item ((allowed_gap behind).append allowed)
  | more item behind gap others =>
      exact allowed_write item ((allowed_gap behind).append
        (.cons rfl ((allowed_gap gap).append (allowed_items others allowed))))

theorem allowed_fields (fields : Fields) {rest : List Char} (allowed : Allowed rest) :
    Allowed (fields.write rest) := by
  cases fields with
  | last name item behind =>
      exact allowed_name name (allowed_write item ((allowed_gap behind).append allowed))
  | more name item behind gap others =>
      exact allowed_name name (allowed_write item ((allowed_gap behind).append
        (.cons rfl ((allowed_gap gap).append (allowed_fields others allowed)))))

end

theorem allowed_text (before after : Gap) (spelling : Spelling) :
    Allowed (before.chars ++ spelling.write after.chars) :=
  (allowed_gap before).append (allowed_write spelling (allowed_gap after))

/-- **YAML reads the document that is written**, whatever blanks are around it. -/
theorem read_write (before after : Gap) (spelling : Spelling) :
    read (Text.unifyBreaks (before.chars ++ spelling.write after.chars)) =
      .ok spelling.document := by
  have allowed : (Text.unifyBreaks (before.chars ++ spelling.write after.chars)).all isAllowed =
      true := by
    rw [List.all_eq_true]
    intro c among
    obtain rfl | inside := Text.mem_of_mem_unifyBreaks among
    · rfl
    · exact allowed_text before after spelling c inside
  rw [read, allowed, Token.ofText_write, Node.ofTokens_tokens]
  simp only [bind, Except.bind, build_node]
  rfl

end Yaml

end AccessRules
