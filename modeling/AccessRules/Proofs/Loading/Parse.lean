import AccessRules.Payload
import AccessRules.Proofs.Store.History

/-!
# What inputs come to

Inputs are made rules by three readers: a store stops at the first input that is no rule, the
reader of loaded rules stops there too and reports its index, and the reader of a checked envelope
goes on and collects issues. What they come to depends on the inputs in one of two ways, which
`describe_or_refused` tells apart: every input describes a rule (`Describe`), or there is a first
one that does not (`Refused`). Each reader has one lemma for either case, and is not unfolded again.
-/

namespace AccessRules

/-- The inputs describe the rules, one by one and in order. -/
def Describe (inputs : List RuleInput) (rules : List Rule) : Prop :=
  inputs.map RuleInput.toRule = rules.map .ok

/-- The input at `index` is no rule, for the reason `failure`, and those in front of it are. -/
inductive Refused : List RuleInput → Nat → Failure → Prop where
  | here {input : RuleInput} {rest : List RuleInput} {failure : Failure}
      (fails : input.toRule = .error failure) : Refused (input :: rest) 0 failure
  | later {input : RuleInput} {rest : List RuleInput} {rule : Rule} {index : Nat}
      {failure : Failure} (made : input.toRule = .ok rule) (refused : Refused rest index failure) :
      Refused (input :: rest) (index + 1) failure

theorem describe_nil_iff {rules : List Rule} : Describe [] rules ↔ rules = [] := by
  simp [Describe, eq_comm]

theorem describe_cons {input : RuleInput} {rest : List RuleInput} {rules : List Rule} :
    Describe (input :: rest) rules ↔
      ∃ rule others, input.toRule = .ok rule ∧ Describe rest others ∧ rules = rule :: others := by
  cases rules with
  | nil => simp [Describe]
  | cons rule others => simp [Describe]

/-- Rules describe themselves. -/
theorem describe_map_rule (rules : List Rule) : Describe (rules.map .rule) rules := by
  rw [Describe, List.map_map]
  rfl

theorem describe_or_refused (inputs : List RuleInput) :
    (∃ rules, Describe inputs rules) ∨ ∃ index failure, Refused inputs index failure := by
  induction inputs with
  | nil => exact Or.inl ⟨[], describe_nil_iff.2 rfl⟩
  | cons input rest ih =>
      cases made : input.toRule with
      | error failure => exact Or.inr ⟨0, failure, .here made⟩
      | ok rule =>
          obtain ⟨rules, others⟩ | ⟨index, failure, others⟩ := ih
          · exact Or.inl ⟨rule :: rules, describe_cons.2 ⟨rule, rules, made, others, rfl⟩⟩
          · exact Or.inr ⟨index + 1, failure, .later made others⟩

theorem Refused.exists_mem {inputs : List RuleInput} {index : Nat} {failure : Failure}
    (refused : Refused inputs index failure) :
    ∃ input ∈ inputs, input.toRule = .error failure := by
  induction refused with
  | here fails => exact ⟨_, List.mem_cons_self, fails⟩
  | later _ _ ih =>
      obtain ⟨input, among, fails⟩ := ih
      exact ⟨input, List.mem_cons_of_mem _ among, fails⟩

/-- The place of a refused input, and the inputs in front of it. -/
theorem Refused.getElem? {inputs : List RuleInput} {index : Nat} {failure : Failure}
    (refused : Refused inputs index failure) :
    (∃ input, inputs[index]? = some input ∧ input.toRule = .error failure) ∧
      ∀ earlier < index, ∃ input rule, inputs[earlier]? = some input ∧ input.toRule = .ok rule := by
  induction refused with
  | here fails => exact ⟨⟨_, rfl, fails⟩, fun earlier before => absurd before (Nat.not_lt_zero _)⟩
  | later made _ ih =>
      obtain ⟨found, before⟩ := ih
      refine ⟨by simpa using found, fun earlier less => ?_⟩
      cases earlier with
      | zero => exact ⟨_, _, rfl, made⟩
      | succ earlier => simpa using before earlier (Nat.lt_of_succ_lt_succ less)

/-- Inputs that describe rules have no refused one among them. -/
theorem Describe.toRule_isOk {inputs : List RuleInput} {rules : List Rule}
    (describe : Describe inputs rules) {input : RuleInput} (among : input ∈ inputs) :
    ∃ rule, input.toRule = .ok rule := by
  have made : input.toRule ∈ rules.map Except.ok :=
    describe ▸ List.mem_map_of_mem among
  obtain ⟨rule, -, same⟩ := List.mem_map.1 made
  exact ⟨rule, same.symm⟩

/-! ### A store -/

theorem Store.rulesOf_of_describe {inputs : List RuleInput} {rules : List Rule}
    (describe : Describe inputs rules) : Store.rulesOf inputs = .ok rules := by
  induction inputs generalizing rules with
  | nil =>
      obtain rfl := describe_nil_iff.1 describe
      rfl
  | cons input rest ih =>
      obtain ⟨rule, others, made, rest, rfl⟩ := describe_cons.1 describe
      rw [rulesOf, made, ih rest]
      rfl

theorem Store.rulesOf_of_refused {inputs : List RuleInput} {index : Nat} {failure : Failure}
    (refused : Refused inputs index failure) : Store.rulesOf inputs = .error failure := by
  induction refused with
  | here fails => rw [rulesOf, fails]; rfl
  | later made _ ih => rw [rulesOf, made, ih]; rfl

/-! ### The reader of loaded rules -/

/-- The report on the rule at `index`, with its issues. -/
def Failure.invalidRule (index : Nat) (issues : List Issue) : Failure :=
  .report (.of .ruleLoad ("Invalid rule at index " ++ Number.writtenInt index)
    [("index", .int index), ("errors", .array (issues.map Issue.toDocument))])

/-- The failure of a load whose rule at `index` fails: issues are reported with the index, anything
else passes through. -/
def Failure.ofRuleAt (index : Nat) : Failure → Failure
  | .invalid _ issues => .invalidRule index issues
  | failure => failure

theorem parseRulesFrom_of_describe {inputs : List RuleInput} {rules : List Rule}
    (describe : Describe inputs rules) (start : Nat) :
    parseRulesFrom start inputs = .ok rules := by
  induction inputs generalizing rules start with
  | nil =>
      obtain rfl := describe_nil_iff.1 describe
      rfl
  | cons input rest ih =>
      obtain ⟨rule, others, made, rest, rfl⟩ := describe_cons.1 describe
      rw [parseRulesFrom, made]
      simp only [ih rest (start + 1)]
      rfl

theorem parseRulesFrom_of_refused {inputs : List RuleInput} {index : Nat} {failure : Failure}
    (refused : Refused inputs index failure) (start : Nat) :
    parseRulesFrom start inputs = .error (failure.ofRuleAt (start + index)) := by
  induction refused generalizing start with
  | here fails =>
      rw [parseRulesFrom, fails]
      cases ‹Failure› <;> rfl
  | @later _ _ _ index _ made _ ih =>
      rw [parseRulesFrom, made]
      simp only [ih (start + 1)]
      rw [Nat.add_right_comm, Nat.add_assoc]
      rfl

theorem parseRules_of_describe {inputs : List RuleInput} {rules : List Rule}
    (describe : Describe inputs rules) : parseRules inputs = .ok rules :=
  parseRulesFrom_of_describe describe 0

theorem parseRules_of_refused {inputs : List RuleInput} {index : Nat} {failure : Failure}
    (refused : Refused inputs index failure) :
    parseRules inputs = .error (failure.ofRuleAt index) := by
  rw [parseRules, parseRulesFrom_of_refused refused, Nat.zero_add]

theorem parseRules_map_rule (rules : List Rule) : parseRules (rules.map .rule) = .ok rules :=
  parseRules_of_describe (describe_map_rule rules)

/-! ### The reader of a checked envelope -/

namespace Envelope

theorem readRules_of_describe {inputs : List RuleInput} {rules : List Rule}
    (describe : Describe inputs rules) (start : Nat) :
    readRules start inputs = .ok (.ok rules) := by
  induction inputs generalizing rules start with
  | nil =>
      obtain rfl := describe_nil_iff.1 describe
      rfl
  | cons input rest ih =>
      obtain ⟨rule, others, made, rest, rfl⟩ := describe_cons.1 describe
      simp [readRules, made, ih rest, bind, Except.bind, pure, Except.pure]

/-- A refused input leaves issues behind, or ends the reading. -/
theorem readRules_of_refused {inputs : List RuleInput} {index : Nat} {failure : Failure}
    (refused : Refused inputs index failure) (start : Nat) :
    (∃ issues, readRules start inputs = .ok (.error issues)) ∨
      ∃ other, readRules start inputs = .error other := by
  induction refused generalizing start with
  | @here _ rest failure fails =>
      cases failure with
      | report report => exact Or.inr ⟨_, by simp [readRules, fails, bind, Except.bind]; rfl⟩
      | fault fault => exact Or.inr ⟨_, by simp [readRules, fails, bind, Except.bind]; rfl⟩
      | invalid model issues =>
          cases others : readRules (start + 1) rest with
          | error other =>
              exact Or.inr ⟨other, by
                simp [readRules, fails, others, bind, Except.bind, pure, Except.pure]⟩
          | ok checked =>
              exact Or.inl ⟨_, by
                simp [readRules, fails, others, bind, Except.bind, pure, Except.pure]; rfl⟩
  | later made _ ih =>
      obtain ⟨issues, others⟩ | ⟨other, others⟩ := ih (start + 1)
      · exact Or.inl ⟨_, by
          simp [readRules, made, others, bind, Except.bind, pure, Except.pure]; rfl⟩
      · exact Or.inr ⟨other, by
          simp [readRules, made, others, bind, Except.bind, pure, Except.pure]⟩

theorem ofInputs_of_describe {inputs : List RuleInput} {rules : List Rule}
    (describe : Describe inputs rules) : ofInputs inputs = .ok rules := by
  rw [ofInputs, readRules_of_describe describe]
  rfl

theorem ofInputs_of_refused {inputs : List RuleInput} {index : Nat} {failure : Failure}
    (refused : Refused inputs index failure) : ∃ other, ofInputs inputs = .error other := by
  obtain ⟨issues, read⟩ | ⟨other, read⟩ := readRules_of_refused refused 0
  · exact ⟨_, by rw [ofInputs, read]; rfl⟩
  · exact ⟨other, by rw [ofInputs, read]; rfl⟩

end Envelope

end AccessRules
