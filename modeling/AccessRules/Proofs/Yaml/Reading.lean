import AccessRules.Yaml.Node.Reader

/-!
# What goes wrong while tokens are read

Tokens are read as the nodes of a document, or they are malformed. A reading finds no other trouble
than that by itself, except that it may not follow an alias: when it comes to another one, the
tokens break off with it (`Honest`). Every reading of the parser has one lemma here; the readings of
nodes call one another, and `nodes_honest` is about all of them at once, by induction on the bound
that they share.

**`ofTokens_error`** says so of a whole document.
-/

namespace AccessRules.Yaml

open Reading

/-- The tokens are malformed, or break off with the trouble, or hold an alias that is not
followed. -/
def Trouble.IsIn (trouble : Trouble) (tokens : List Token) : Prop :=
  trouble = .malformed ∨ .broken trouble ∈ tokens ∨
    trouble = .beyond ∧ ∃ name, .alias name ∈ tokens

theorem Trouble.IsIn.of_suffix {trouble : Trouble} {rest tokens : List Token}
    (isIn : trouble.IsIn rest) (behind : rest <:+ tokens) : trouble.IsIn tokens := by
  obtain malformed | among | ⟨left, name, among⟩ := isIn
  · exact .inl malformed
  · exact .inr (.inl (behind.subset among))
  · exact .inr (.inr ⟨left, name, behind.subset among⟩)

/-- The reading finds no trouble here but one that is in the tokens, and it leaves no tokens but
those that it found. -/
def HonestAt {α : Type} (feed : Feed) (reading : Reading α) : Prop :=
  match reading.run feed with
  | .ok (_, rest) => rest.tokens <:+ feed.tokens
  | .error trouble => trouble.IsIn feed.tokens

/-- The reading is honest wherever it begins. -/
structure Honest {α : Type} (reading : Reading α) : Prop where
  run : ∀ feed : Feed, HonestAt feed reading

namespace Honest

variable {α β : Type} {reading : Reading α}

theorem pure (value : α) : Honest (pure value) :=
  ⟨fun feed => List.suffix_refl feed.tokens⟩

theorem bind {next : α → Reading β} (first : Honest reading)
    (goesOn : ∀ value, Honest (next value)) : Honest (reading >>= next) := by
  refine ⟨fun feed => ?_⟩
  have begun := first.run feed
  unfold HonestAt at begun ⊢
  rw [StateT.run_bind]
  -- What the first reading leaves is an end of what it found, and so is what the second one breaks
  -- off with.
  cases came : reading.run feed with
  | error trouble =>
      rw [came] at begun
      exact begun
  | ok found =>
      obtain ⟨value, rest⟩ := found
      rw [came] at begun
      replace begun : rest.tokens <:+ feed.tokens := begun
      have later := (goesOn value).run rest
      unfold HonestAt at later
      show match (next value).run rest with
        | .ok (_, rest) => rest.tokens <:+ feed.tokens
        | .error trouble => trouble.IsIn feed.tokens
      cases ended : (next value).run rest with
      | error trouble =>
          rw [ended] at later
          exact Trouble.IsIn.of_suffix later begun
      | ok found =>
          rw [ended] at later
          exact List.IsSuffix.trans later begun

theorem ite {condition : Prop} [Decidable condition] {one other : Reading α} (first : Honest one)
    (second : Honest other) : Honest (if condition then one else other) := by
  split
  · exact first
  · exact second

theorem refuse : Honest (Reading.refuse (α := α)) := ⟨fun _ => Or.inl rfl⟩

theorem get : Honest (MonadStateOf.get : Reading Feed) :=
  ⟨fun feed => List.suffix_refl feed.tokens⟩

theorem modify {change : Feed → Feed} (shorter : ∀ feed, (change feed).tokens <:+ feed.tokens) :
    Honest (modify change) := ⟨shorter⟩

theorem peek : Honest Reading.peek := by
  refine ⟨fun ⟨tokens, anchors⟩ => ?_⟩
  cases tokens with
  | nil => exact Or.inl rfl
  | cons token rest =>
      cases token with
      | broken trouble => exact Or.inr (Or.inl List.mem_cons_self)
      | _ => exact List.suffix_refl _

/-- What follows on the next token may know that it stands there. -/
theorem peeked {next : Token → Reading α}
    (goesOn : ∀ feed token, feed.tokens.head? = some token → HonestAt feed (next token)) :
    Honest (Reading.peek >>= next) := by
  refine ⟨fun ⟨tokens, anchors⟩ => ?_⟩
  cases tokens with
  | nil => exact Or.inl rfl
  | cons token rest =>
      cases token with
      | broken trouble => exact Or.inr (Or.inl List.mem_cons_self)
      | _ => exact goesOn _ _ rfl

theorem advance : Honest Reading.advance := .modify fun feed => List.tail_suffix feed.tokens

theorem isAt (tokens : List Token) : Honest (Reading.isAt tokens) := peek.bind fun _ => pure _

theorem accept (token : Token) : Honest (Reading.accept token) :=
  peek.bind fun _ => .ite (advance.bind fun _ => pure true) (pure false)

theorem need (token : Token) : Honest (Reading.need token) :=
  (accept token).bind fun _ => .ite refuse (pure ())

end Honest

/-! ### The properties of nodes -/

theorem tagName_honest (handles : Handles) (tag : TagText) : Honest (tagName handles tag) := by
  unfold tagName
  extract_lets last
  have last_honest (name : String) : Honest (last name) := .pure _
  split
  · exact last_honest _
  · split
    · exact last_honest _
    · exact Honest.refuse.bind last_honest

theorem properties_honest : Honest properties := by
  unfold properties
  extract_lets anchor tag
  have anchor_honest : Honest anchor := by
    refine Honest.peek.bind fun token => ?_
    split
    · exact Honest.advance.bind fun _ => .pure _
    · exact .pure _
  have tag_honest : Honest tag := by
    refine Honest.peek.bind fun token => ?_
    split
    · exact Honest.advance.bind fun _ => .pure _
    · exact .pure _
  refine anchor_honest.bind fun anchor? => ?_
  split
  · exact tag_honest.bind fun _ => .pure _
  · refine tag_honest.bind fun tag? => ?_
    split
    · exact anchor_honest.bind fun _ => .pure _
    · exact .pure _

theorem announce_honest (name : String) : Honest (announce name) := by
  refine Honest.get.bind fun feed => ?_
  have named : Honest (modify fun feed : Feed =>
      { feed with anchors := (name, none) :: feed.anchors }) :=
    .modify fun feed => List.suffix_refl feed.tokens
  exact .ite (Honest.refuse.bind fun _ => named) named

theorem complete_honest (name : String) (node : Node) : Honest (complete name node) :=
  .modify fun feed => List.suffix_refl feed.tokens

theorem nodeOf_cases (name : String) (feed : Feed) :
    (nodeOf name).run feed = .error .malformed ∨ (nodeOf name).run feed = .error .beyond ∨
      ∃ node, (nodeOf name).run feed = .ok (node, feed) := by
  simp only [nodeOf, StateT.run_bind, StateT.run_get, pure_bind]
  cases feed.anchors.lookup name with
  | none => exact .inl rfl
  | some known =>
      cases known with
      | none => exact .inr (.inl rfl)
      | some node =>
          dsimp only
          split
          · exact .inr (.inl rfl)
          · exact .inr (.inr ⟨node, rfl⟩)

/-- An alias that is not followed stands in the tokens. -/
theorem alias_honest {feed : Feed} {name : String}
    (first : feed.tokens.head? = some (.alias name)) :
    HonestAt feed (do advance; nodeOf name) := by
  have run : (do advance; nodeOf name : Reading Node).run feed =
      (nodeOf name).run { feed with tokens := feed.tokens.tail } := rfl
  rw [HonestAt, run]
  obtain malformed | left | ⟨node, found⟩ :=
    nodeOf_cases name { feed with tokens := feed.tokens.tail }
  · rw [malformed]
    exact Or.inl rfl
  · rw [left]
    exact Or.inr (Or.inr ⟨rfl, name, List.mem_of_head? first⟩)
  · rw [found]
    exact List.tail_suffix feed.tokens

/-! ### Nodes -/

/-- The readings of nodes are honest at a bound. -/
structure Nodes (bound : Nat) : Prop where
  node : ∀ handles standing, Honest (readNode handles standing bound)
  content : ∀ handles standing mayMiss tagged name,
    Honest (readContent handles standing mayMiss tagged name bound)
  blockItems : ∀ handles, Honest (readBlockItems handles bound)
  flushItems : ∀ handles, Honest (readFlushItems handles bound)
  blockPairs : ∀ handles, Honest (readBlockPairs handles bound)
  flowItems : ∀ handles first, Honest (readFlowItems handles first bound)
  flowPairs : ∀ handles first, Honest (readFlowPairs handles first bound)
  elseEmpty : ∀ handles standing ends, Honest (readUnless handles standing ends bound)
  value : ∀ handles standing ends, Honest (readValue handles standing ends bound)

namespace Nodes

variable {bound : Nat} (nodes : Nodes bound) (handles : Handles)

include nodes

theorem readNode_honest (standing : Standing) : Honest (readNode handles standing (bound + 1)) := by
  rw [readNode]
  refine Honest.peeked fun feed token first => ?_
  split
  · exact alias_honest first
  · refine (properties_honest.bind fun ⟨anchor, tag⟩ => ?_).run feed
    have forAnchor {action : String → Reading Unit} (each : ∀ name, Honest (action name)) :
        Honest (anchor.forM action) := by
      cases anchor with
      | none => exact .pure ()
      | some name => exact each name
    -- The handle of a tag may be unknown, so that the rest follows on its name.
    have named (name : Option String) : Honest (do
        anchor.forM fun name => do
          let _ ← Reading.peek
          announce name
        let node ← readContent handles standing (anchor.isSome || tag.isSome) tag.isSome name bound
        anchor.forM fun name => complete name node
        return node) := by
      refine (forAnchor fun _ => Honest.peek.bind fun _ => announce_honest _).bind fun _ => ?_
      refine (nodes.content ..).bind fun node => ?_
      exact (forAnchor fun _ => complete_honest _ node).bind fun _ => .pure node
    cases tag with
    | none => exact named none
    | some tag => exact (tagName_honest handles tag).bind named

theorem readContent_honest (standing : Standing) (mayMiss tagged : Bool) (name : Option String) :
    Honest (readContent handles standing mayMiss tagged name (bound + 1)) := by
  rw [readContent]
  refine Honest.peek.bind fun token => ?_
  split
  · exact Honest.advance.bind fun _ => .pure _
  · exact Honest.advance.bind fun _ => (nodes.flowItems ..).bind fun _ => .pure _
  · exact Honest.advance.bind fun _ => (nodes.flowPairs ..).bind fun _ => .pure _
  · refine .ite ((nodes.flushItems _).bind fun _ => .pure _) ?_
    refine .ite (Honest.advance.bind fun _ => (nodes.blockItems _).bind fun _ => .pure _) ?_
    refine .ite (Honest.advance.bind fun _ => (nodes.blockPairs _).bind fun _ => .pure _) ?_
    exact .ite (.pure _) .refuse

theorem readBlockItems_honest : Honest (readBlockItems handles (bound + 1)) := by
  rw [readBlockItems]
  refine (Honest.accept _).bind fun _ => .ite ?_ ?_
  · exact (nodes.elseEmpty ..).bind fun _ => (nodes.blockItems _).bind fun _ => .pure _
  · exact (Honest.need _).bind fun _ => .pure _

theorem readFlushItems_honest : Honest (readFlushItems handles (bound + 1)) := by
  rw [readFlushItems]
  refine (Honest.accept _).bind fun _ => .ite ?_ (.pure _)
  exact (nodes.elseEmpty ..).bind fun _ => (nodes.flushItems _).bind fun _ => .pure _

theorem readBlockPairs_honest : Honest (readBlockPairs handles (bound + 1)) := by
  rw [readBlockPairs]
  refine (Honest.accept _).bind fun _ => .ite ?_ ?_
  · refine (nodes.elseEmpty ..).bind fun _ => (nodes.value ..).bind fun _ => ?_
    exact (nodes.blockPairs _).bind fun _ => .pure _
  · exact (Honest.need _).bind fun _ => .pure _

theorem readFlowItems_honest (first : Bool) :
    Honest (readFlowItems handles first (bound + 1)) := by
  rw [readFlowItems]
  refine (Honest.accept _).bind fun _ => .ite (.pure _) ?_
  extract_lets rest entry
  have rest_honest (item : Node) : Honest (rest item) := (nodes.flowItems ..).bind fun _ => .pure _
  have entry_honest (begun : Unit) : Honest (entry begun) := by
    refine (Honest.accept _).bind fun _ => .ite (.pure _) ?_
    refine (Honest.accept _).bind fun _ => .ite ?_ ((nodes.node ..).bind rest_honest)
    exact (nodes.elseEmpty ..).bind fun _ => (nodes.value ..).bind fun _ => rest_honest _
  exact .ite ((Honest.need _).bind entry_honest) (entry_honest ())

theorem readFlowPairs_honest (first : Bool) :
    Honest (readFlowPairs handles first (bound + 1)) := by
  rw [readFlowPairs]
  refine (Honest.accept _).bind fun _ => .ite (.pure _) ?_
  extract_lets rest entry
  have rest_honest (pair : Node × Node) : Honest (rest pair) :=
    (nodes.flowPairs ..).bind fun _ => .pure _
  have entry_honest (begun : Unit) : Honest (entry begun) := by
    refine (Honest.accept _).bind fun _ => .ite (.pure _) ?_
    refine (Honest.accept _).bind fun _ => .ite ?_ ((nodes.node ..).bind fun _ => rest_honest _)
    exact (nodes.elseEmpty ..).bind fun _ => (nodes.value ..).bind fun _ => rest_honest _
  exact .ite ((Honest.need _).bind entry_honest) (entry_honest ())

theorem readUnless_honest (standing : Standing) (ends : List Token) :
    Honest (readUnless handles standing ends (bound + 1)) := by
  rw [readUnless]
  exact (Honest.isAt _).bind fun _ => .ite (.pure _) (nodes.node ..)

theorem readValue_honest (standing : Standing) (ends : List Token) :
    Honest (readValue handles standing ends (bound + 1)) := by
  rw [readValue]
  exact (Honest.accept _).bind fun _ => .ite (nodes.elseEmpty ..) (.pure _)

end Nodes

theorem nodes_honest (bound : Nat) : Nodes bound := by
  induction bound with
  | zero => constructor <;> intros <;> exact .refuse
  | succ bound ih =>
      exact ⟨ih.readNode_honest, ih.readContent_honest, ih.readBlockItems_honest,
        ih.readFlushItems_honest, ih.readBlockPairs_honest, ih.readFlowItems_honest,
        ih.readFlowPairs_honest, ih.readUnless_honest, ih.readValue_honest⟩

/-! ### Documents -/

theorem readDirectives_honest (versioned : Bool) (handles : Handles) (bound : Nat) :
    Honest (readDirectives versioned handles bound) := by
  induction bound generalizing versioned handles with
  | zero => exact .refuse
  | succ bound ih =>
      rw [readDirectives]
      refine Honest.peek.bind fun token => ?_
      split
      · refine Honest.advance.bind fun _ => ?_
        split
        · exact .ite .refuse (ih ..)
        · exact .ite .refuse (ih ..)
        · exact ih ..
      · exact .pure _

theorem skipEnds_honest (bound : Nat) : Honest (skipEnds bound) := by
  induction bound with
  | zero => exact .refuse
  | succ bound ih =>
      rw [skipEnds]
      exact (Honest.accept _).bind fun _ => .ite ih (.pure ())

theorem readEnd_honest (bound : Nat) : Honest (readEnd bound) := by
  refine (skipEnds_honest bound).bind fun _ => (Honest.accept _).bind fun _ => .ite ?_ (.pure ())
  exact (readDirectives_honest false [] bound).bind fun _ => .refuse

/-- A document is complete when nothing comes behind it. -/
theorem ended_honest (bound : Nat) (node? : Option Node) : Honest (do
    readEnd bound
    return node?) :=
  (readEnd_honest bound).bind fun _ => .pure node?

/-- A document that has directives or begins with a mark. -/
theorem readDirected_honest (bound : Nat) : Honest (do
    let handles := (← readDirectives false [] bound) ++ Handles.standard
    need .documentStart
    let node? ← match ← peek with
      | .directive _ | .documentStart | .documentEnd | .streamEnd => pure (some emptyNode)
      | _ => pure (some (← readNode handles .block bound))
    readEnd bound
    return node?) := by
  refine (readDirectives_honest false [] bound).bind fun _ => ?_
  refine (Honest.need _).bind fun _ => Honest.peek.bind fun token => ?_
  split
  · exact ended_honest bound (some emptyNode)
  · exact ended_honest bound (some emptyNode)
  · exact ended_honest bound (some emptyNode)
  · exact ended_honest bound (some emptyNode)
  · exact ((nodes_honest bound).node ..).bind fun node => ended_honest bound (some node)

theorem readDocument_honest (bound : Nat) : Honest (readDocument bound) := by
  refine Honest.peek.bind fun token => ?_
  split
  · exact .pure none
  · exact readDirected_honest bound
  · exact readDirected_honest bound
  · exact ((nodes_honest bound).node ..).bind fun node => ended_honest bound (some node)

/-- **The troubles of tokens.** Tokens that are no document are malformed, or they break off, or an
alias among them is not followed. -/
theorem ofTokens_error {tokens : List Token} {trouble : Trouble}
    (failed : Node.ofTokens tokens = .error trouble) :
    trouble.IsIn tokens := by
  have honest := (readDocument_honest (4 * tokens.length + 8)).run ⟨tokens, []⟩
  cases came : (readDocument (4 * tokens.length + 8)).run ⟨tokens, []⟩ with
  | ok found =>
      have read : Node.ofTokens tokens = .ok found.1 := congrArg (Except.map Prod.fst) came
      rw [read] at failed
      cases failed
  | error found =>
      have unread : Node.ofTokens tokens = .error found := congrArg (Except.map Prod.fst) came
      rw [unread] at failed
      rw [HonestAt, came] at honest
      cases failed
      exact honest

end AccessRules.Yaml
