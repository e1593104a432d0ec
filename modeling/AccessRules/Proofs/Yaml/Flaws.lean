import AccessRules.Yaml.Value

/-!
# What is wrong with the values of a document

The scalars of a document need not have the values that their tags promise, and its collections need
not be what theirs do. `Node.flaws` lists everything of this kind that is wrong with a node, each
with the number of levels below the node at which it is found, in the order of the text.

**`build_agrees`** says that a node has a value exactly when nothing is wrong with it, and that it
fails with the flaw nearest to its root otherwise, the first one of several that are equally near
(`Nearest`).
-/

namespace AccessRules.Yaml

open AccessRules.Number

/-- A trouble with a value, and how many levels below it is found. -/
abbrev Flaw := Nat × Trouble

/-- The flaw is the nearest of some, and the first of the nearest ones. -/
def Nearest (flaws : List Flaw) (flaw : Flaw) : Prop :=
  ∃ before after, flaws = before ++ flaw :: after ∧
    (∀ earlier ∈ before, flaw.1 < earlier.1) ∧ ∀ later ∈ after, flaw.1 ≤ later.1

/-- A value is built when there are no flaws, and the nearest one is reported otherwise. -/
def Agrees {α : Type} (built : Built α) (flaws : List Flaw) : Prop :=
  match built with
  | .ok _ => flaws = []
  | .error flaw => Nearest flaws flaw

/-- What is wrong with a value that is built in one step. -/
def Built.flaws {α : Type} : Built α → List Flaw
  | .ok _ => []
  | .error flaw => [flaw]

/-- A flaw of a part, as one of the whole. -/
def Flaw.below (flaw : Flaw) : Flaw := (flaw.1 + 1, flaw.2)

/-! ### The flaws of nodes -/

namespace Node

mutual

/-- Everything that is wrong with a node. -/
def flaws : Node → List Flaw
  | scalar tag text =>
      if tag.isCollection then [(1, .malformed)] else (scalar tag text).scalarBuilt.flaws
  | sequence tag items => match tag with
    | .sequence => (itemFlaws items).map Flaw.below
    | .pairs => (pairFlaws items).map Flaw.below
    | tag => [(if tag.isCollection then 1 else 0, .malformed)]
  | mapping tag merges pairs => match tag with
    | .mapping | .set => (memberFlaws pairs).map Flaw.below
    | .sequence | .pairs => [(1, .malformed)]
    | tag => (mapping tag merges pairs).scalarBuilt.flaws

/-- Everything that is wrong with the items of a list. -/
def itemFlaws : List Node → List Flaw
  | [] => []
  | item :: rest => item.flaws ++ itemFlaws rest

/-- Everything that is wrong with the keys and the values of a mapping. -/
def memberFlaws : List (Node × Node) → List Flaw
  | [] => []
  | (key, value) :: rest => key.key.flaws ++ (value.flaws ++ memberFlaws rest)

/-- Everything that is wrong with a list of mappings of one pair each. -/
def pairFlaws : List Node → List Flaw
  | [] => []
  | mapping _ true _ :: rest => (0, .beyond) :: pairFlaws rest
  | mapping _ false [(key, value)] :: rest => key.flaws ++ (value.flaws ++ pairFlaws rest)
  | _ :: rest => (0, .malformed) :: pairFlaws rest

end

end Node

/-! ### Agreement -/

section

variable {α β : Type} {flaws others : List Flaw} {flaw : Flaw}

theorem Nearest.single (flaw : Flaw) : Nearest [flaw] flaw := ⟨[], [], rfl, by simp, by simp⟩

theorem Nearest.least (nearest : Nearest flaws flaw) :
    ∀ other ∈ flaws, flaw.1 ≤ other.1 := by
  obtain ⟨before, after, rfl, deeper, later⟩ := nearest
  intro other among
  obtain earlier | among := List.mem_append.1 among
  · exact Nat.le_of_lt (deeper other earlier)
  · obtain rfl | among := List.mem_cons.1 among
    · exact Nat.le_refl _
    · exact later other among

theorem Nearest.mem (nearest : Nearest flaws flaw) : flaw ∈ flaws := by
  obtain ⟨before, after, rfl, -⟩ := nearest
  simp

/-- There is one nearest flaw: of two, none stands before the other. -/
theorem Nearest.unique {other : Flaw} (nearest : Nearest flaws flaw)
    (nearest' : Nearest flaws other) : other = flaw := by
  obtain ⟨before, after, rfl, deeper, later⟩ := nearest
  obtain ⟨before', after', same, deeper', later'⟩ := nearest'
  obtain ⟨between, shape, tail⟩ | ⟨between, shape, tail⟩ := List.append_eq_append_iff.1 same
  · cases between with
    | nil => simp_all
    | cons first between =>
        obtain ⟨rfl, rfl⟩ := List.cons.inj tail
        exact absurd (deeper' flaw (by simp [shape])) (Nat.not_lt.2 (later other (by simp)))
  · cases between with
    | nil => simp_all
    | cons first between =>
        obtain ⟨rfl, rfl⟩ := List.cons.inj tail
        exact absurd (deeper other (by simp [shape])) (Nat.not_lt.2 (later' flaw (by simp)))

/-- A nearest flaw stays the nearest in front of others that are not nearer. -/
theorem Nearest.append_right (nearest : Nearest flaws flaw)
    (farther : ∀ other ∈ others, flaw.1 ≤ other.1) : Nearest (flaws ++ others) flaw := by
  obtain ⟨before, after, rfl, deeper, later⟩ := nearest
  refine ⟨before, after ++ others, by simp, deeper, fun other among => ?_⟩
  exact (List.mem_append.1 among).elim (later other) (farther other)

/-- A nearest flaw stays the nearest behind others that are farther. -/
theorem Nearest.append_left (nearest : Nearest flaws flaw)
    (farther : ∀ other ∈ others, flaw.1 < other.1) : Nearest (others ++ flaws) flaw := by
  obtain ⟨before, after, rfl, deeper, later⟩ := nearest
  refine ⟨others ++ before, after, by simp, fun other among => ?_, later⟩
  exact (List.mem_append.1 among).elim (farther other) (deeper other)

theorem Built.agrees_flaws (built : Built α) : Agrees built built.flaws := by
  cases built with
  | ok value => rfl
  | error flaw => exact .single flaw

theorem Agrees.map {built : Built α} (agrees : Agrees built flaws) (f : α → β) :
    Agrees (built.map f) flaws := by
  cases built <;> exact agrees

theorem Agrees.below {built : Built α} (agrees : Agrees built flaws) :
    Agrees built.below (flaws.map Flaw.below) := by
  cases built with
  | ok value =>
      obtain rfl : flaws = [] := agrees
      rfl
  | error flaw =>
      obtain ⟨before, after, rfl, deeper, later⟩ := agrees
      refine ⟨before.map Flaw.below, after.map Flaw.below, by simp [Flaw.below], ?_, ?_⟩
      · intro other among
        obtain ⟨earlier, there, rfl⟩ := List.mem_map.1 among
        exact Nat.succ_lt_succ (deeper earlier there)
      · intro other among
        obtain ⟨last, there, rfl⟩ := List.mem_map.1 among
        exact Nat.succ_le_succ (later last there)

/-- Of two values the nearer trouble is reported, the first one's when they are equally near. -/
theorem Agrees.both {one : Built α} {other : Built β} (agrees : Agrees one flaws)
    (agrees' : Agrees other others) : Agrees (one.both other) (flaws ++ others) := by
  cases one with
  | ok value =>
      obtain rfl : flaws = [] := agrees
      cases other <;> exact agrees'
  | error first =>
      cases other with
      | ok value =>
          obtain rfl : others = [] := agrees'
          rw [List.append_nil]
          exact agrees
      | error second =>
          replace agrees : Nearest flaws first := agrees
          replace agrees' : Nearest others second := agrees'
          show Nearest (flaws ++ others) (if second.1 < first.1 then second else first)
          -- Equally near ones are told apart by their order, so that only a nearer second one wins.
          split
          next nearer =>
            exact agrees'.append_left fun other among =>
              Nat.lt_of_lt_of_le nearer (agrees.least other among)
          next farther =>
            exact agrees.append_right fun other among =>
              Nat.le_trans (Nat.not_lt.1 farther) (agrees'.least other among)

end

/-! ### Building -/

mutual

/-- A node has a value when nothing is wrong with it, and fails with its nearest flaw otherwise. -/
theorem build_agrees (node : Node) : Agrees node.build node.flaws := by
  cases node with
  | scalar tag text =>
      rw [Node.build, Node.flaws]
      split
      · exact .single _
      · exact Built.agrees_flaws _
  | sequence tag items =>
      cases tag with
      | sequence => exact (buildItems_agrees items).below.map _
      | pairs => exact (buildPairs_agrees items).below.map _
      | _ => exact .single _
  | mapping tag merges pairs =>
      cases tag with
      | mapping => exact (buildMembers_agrees pairs).below.map _
      | set => exact (buildMembers_agrees pairs).below.map _
      | sequence => exact .single _
      | pairs => exact .single _
      | _ => exact Built.agrees_flaws _

theorem buildItems_agrees (items : List Node) :
    Agrees (Node.buildItems items) (Node.itemFlaws items) := by
  cases items with
  | nil => rfl
  | cons item rest =>
      rw [Node.buildItems, Node.itemFlaws]
      exact ((build_agrees item).both (buildItems_agrees rest)).map _

theorem buildMembers_agrees (pairs : List (Node × Node)) :
    Agrees (Node.buildMembers pairs) (Node.memberFlaws pairs) := by
  cases pairs with
  | nil => rfl
  | cons pair rest =>
      obtain ⟨key, value⟩ := pair
      rw [Node.buildMembers, Node.memberFlaws]
      exact (key.key.agrees_flaws.both
        ((build_agrees value).both (buildMembers_agrees rest))).map _

theorem buildPairs_agrees (items : List Node) :
    Agrees (Node.buildPairs items) (Node.pairFlaws items) := by
  -- What is no mapping of one pair is a flaw right here, so that none behind it is nearer.
  have other (trouble : Trouble) (rest : List Flaw) : Nearest ((0, trouble) :: rest) (0, trouble) :=
    ⟨[], rest, rfl, by simp, fun _ _ => Nat.zero_le _⟩
  cases items with
  | nil => rfl
  | cons item rest =>
      cases item with
      | scalar tag text => exact other _ _
      | sequence tag items => exact other _ _
      | mapping tag merges pairs =>
          match merges, pairs with
          | true, pairs => exact other _ _
          | false, [] => exact other _ _
          | false, [(key, value)] =>
              rw [Node.buildPairs, Node.pairFlaws]
              exact ((build_agrees key).both
                ((build_agrees value).both (buildPairs_agrees rest))).map _
          | false, _ :: _ :: _ => exact other _ _

end

/-! ### The kinds of faults -/

/-- The kinds of the faults that values are found to have. -/
def faultKinds : List String :=
  ["AttributeError", "IndexError", "KeyError", "OverflowError", "TypeError", "ValueError"]

/-- A fault that a value is found to have. -/
abbrev IsOfValue (fault : Fault) : Prop := fault.kind ∈ faultKinds

namespace Node

mutual

/-- Does a mapping in the node have merges? -/
def hasMerges : Node → Bool
  | scalar _ _ => false
  | sequence _ items => itemsMerge items
  | mapping _ merges pairs => merges || pairsMerge pairs

/-- Does a mapping in the items of a list have merges? -/
def itemsMerge : List Node → Bool
  | [] => false
  | item :: rest => item.hasMerges || itemsMerge rest

/-- Does a mapping in the keys and the values of a mapping have merges? -/
def pairsMerge : List (Node × Node) → Bool
  | [] => false
  | (key, value) :: rest => key.hasMerges || (value.hasMerges || pairsMerge rest)

end

end Node

/-- A trouble with a value: its node is malformed, or it has a fault, or there are merges that are
not followed. -/
def Trouble.IsOfValue (merges : Bool) : Trouble → Prop
  | .malformed => True
  | .fault found => Yaml.IsOfValue found
  | .beyond => merges = true

theorem Trouble.IsOfValue.mono {merges merges' : Bool} {trouble : Trouble}
    (isOfValue : trouble.IsOfValue merges) (kept : merges = true → merges' = true) :
    trouble.IsOfValue merges' := by
  cases trouble with
  | malformed => trivial
  | fault found => exact isOfValue
  | beyond => exact kept isOfValue

/-- A flaw is a trouble with a value. -/
def Flaw.IsOfValue (merges : Bool) (flaw : Flaw) : Prop := flaw.2.IsOfValue merges

/-- What fails, fails for such a cause. -/
inductive Fails {ε α : Type} (cause : ε → Prop) : Except ε α → Prop where
  | ok (value : α) : Fails cause (.ok value)
  | error {found : ε} (caused : cause found) : Fails cause (.error found)

section

variable {ε ε' α β : Type} {cause : ε → Prop}

theorem Fails.bind {value : Except ε α} {next : α → Except ε β} (fails : Fails cause value)
    (goesOn : ∀ found, Fails cause (next found)) : Fails cause (value >>= next) := by
  cases fails with
  | ok found => exact goesOn found
  | error caused => exact .error caused

theorem Fails.map {value : Except ε α} (fails : Fails cause value) (f : α → β) :
    Fails cause (value.map f) := by
  cases fails with
  | ok found => exact .ok (f found)
  | error caused => exact .error caused

theorem Fails.mapError {value : Except ε α} (fails : Fails cause value) {cause' : ε' → Prop}
    {f : ε → ε'} (carried : ∀ found, cause found → cause' (f found)) :
    Fails cause' (value.mapError f) := by
  cases fails with
  | ok found => exact .ok found
  | error caused => exact .error (carried _ caused)

theorem Fails.imp {value : Except ε α} (fails : Fails cause value) {cause' : ε → Prop}
    (weaker : ∀ found, cause found → cause' found) : Fails cause' value := by
  cases fails with
  | ok found => exact .ok found
  | error caused => exact .error (weaker _ caused)

theorem Fails.mapM {f : α → Except ε β} (fails : ∀ a, Fails cause (f a)) (parts : List α) :
    Fails cause (parts.mapM f) := by
  induction parts with
  | nil => exact .ok []
  | cons part rest ih =>
      rw [List.mapM_cons]
      exact (fails part).bind fun _ => ih.bind fun _ => .ok _

end

theorem isOfValue_wrongValue (cause : ValueFault) : IsOfValue (.wrongValue cause) :=
  show "ValueError" ∈ faultKinds by decide

theorem parseInt_fails (text : String) : Fails IsOfValue (parseInt text) := by
  rw [parseInt]
  split
  · exact .ok _
  · exact .error (isOfValue_wrongValue _)
  · exact .error (isOfValue_wrongValue _)

theorem parseIntIn_fails (base : Nat) (text : String) : Fails IsOfValue (parseIntIn base text) := by
  rw [parseIntIn]
  split
  extract_lets
  split
  · exact .error (isOfValue_wrongValue _)
  · exact .ok _

theorem parseSigned_fails (negative : Bool) (text : String) :
    Fails IsOfValue (parseSigned negative text) := by
  rw [parseSigned]
  split
  · exact .ok _
  · exact .error (isOfValue_wrongValue _)

theorem intOf_fails (text : String) : Fails IsOfValue (intOf text) := by
  rw [intOf]
  split
  split
  · exact .error (by decide)
  · exact .ok 0
  · exact (parseIntIn_fails 2 _).map _
  · exact (parseIntIn_fails 16 _).map _
  · exact (parseIntIn_fails 8 _).map _
  · split
    · exact (Fails.mapM parseInt_fails _).bind fun _ => .ok _
    · exact (parseInt_fails _).map _

theorem sixtiesSum_fails (value : Float) (base : Int) (parts : List Float) :
    Fails IsOfValue (sixtiesSum value base parts) := by
  induction parts generalizing value base with
  | nil => exact .ok value
  | cons part rest ih =>
      rw [sixtiesSum]
      split
      · exact ih _ _
      · exact .error (by decide)

theorem floatOf_fails (text : String) : Fails IsOfValue (floatOf text) := by
  rw [floatOf]
  dsimp only
  split
  · exact .error (by decide)
  · split
    · exact .ok _
    · split
      · exact .ok _
      · split
        · refine (Fails.mapM (parseSigned_fails false) _).bind fun parts => ?_
          exact (sixtiesSum_fails _ _ _).bind fun _ => .ok _
        · exact parseSigned_fails _ _

theorem boolOf_fails (text : String) : Fails IsOfValue (boolOf text) := by
  rw [boolOf]
  split
  · exact .ok true
  · split
    · exact .ok false
    · exact .error (by decide)

theorem toLeaf_fails (stamp : Stamp) : Fails IsOfValue stamp.toLeaf := by
  rw [Stamp.toLeaf]
  split
  · exact .error (isOfValue_wrongValue _)
  · split <;> exact .ok _

theorem scalarValue_fails (merges : Bool) (tag : Tag) (text : String) :
    Fails (Trouble.IsOfValue merges) (scalarValue tag text) := by
  have carried (found : Fault) (isOfValue : IsOfValue found) :
      Trouble.IsOfValue merges (.fault found) := isOfValue
  have malformed : Fails (Trouble.IsOfValue merges) (.error .malformed : Except Trouble Document) :=
    .error trivial
  unfold scalarValue
  extract_lets orFault
  split
  · exact .ok _
  · exact ((boolOf_fails text).mapError carried).map _
  · exact ((intOf_fails text).mapError carried).map _
  · exact ((floatOf_fails text).mapError carried).map _
  · exact .ok _
  · split
    · exact ((toLeaf_fails _).mapError carried).map _
    · exact .error (show "AttributeError" ∈ faultKinds by decide)
  · split
    · split
      · exact .ok _
      · exact malformed
    · exact malformed
  · exact malformed

mutual

/-- The text of a scalar is missing where the node is malformed, or where it has merges. -/
theorem Node.scalarText_fails (node : Node) :
    Fails (Trouble.IsOfValue node.hasMerges) node.scalarText := by
  cases node with
  | scalar tag text => exact .ok text
  | sequence tag items => exact .error trivial
  | mapping tag merges pairs =>
      rw [Node.scalarText, Node.hasMerges]
      cases merges with
      | true => exact .error rfl
      | false => exact markedText_fails pairs

theorem Node.markedText_fails (pairs : List (Node × Node)) :
    Fails (Trouble.IsOfValue (Node.pairsMerge pairs)) (Node.markedText pairs) := by
  cases pairs with
  | nil => exact .error trivial
  | cons pair rest =>
      obtain ⟨key, value⟩ := pair
      rw [Node.markedText]
      split
      · exact (scalarText_fails value).imp fun _ isOfValue => isOfValue.mono fun merges => by
          simp [Node.pairsMerge, merges]
      · exact (markedText_fails rest).imp fun _ isOfValue => isOfValue.mono fun merges => by
          simp [Node.pairsMerge, merges]

end

theorem Node.scalarBuilt_fails (node : Node) :
    Fails (Flaw.IsOfValue node.hasMerges) node.scalarBuilt := by
  have texted := node.scalarText_fails
  unfold Node.scalarBuilt
  split
  next trouble untold =>
    rw [untold] at texted
    cases texted with
    | error caused => exact .error caused
  next => exact .error (show "TypeError" ∈ faultKinds by decide)
  next => exact (scalarValue_fails _ _ _).mapError fun _ isOfValue => isOfValue

theorem Node.key_fails (node : Node) : Fails (Flaw.IsOfValue node.hasMerges) node.key := by
  unfold Node.key
  split
  · exact .error trivial
  · split
    · split
      · exact .ok _
      · exact .error trivial
    · refine node.scalarBuilt_fails.bind fun value => ?_
      split
      · exact .ok _
      · exact .error trivial

theorem Built.flaws_isOfValue {α : Type} {merges : Bool} {built : Built α}
    (fails : Fails (Flaw.IsOfValue merges) built) :
    ∀ flaw ∈ built.flaws, flaw.IsOfValue merges := by
  cases fails with
  | ok value => simp [Built.flaws]
  | error caused => exact List.forall_mem_singleton.2 caused

/-- The flaws of a whole are those of its parts. -/
theorem Flaw.below_isOfValue {merges : Bool} {flaws : List Flaw}
    (all : ∀ flaw ∈ flaws, flaw.IsOfValue merges) :
    ∀ flaw ∈ flaws.map Flaw.below, flaw.IsOfValue merges :=
  List.forall_mem_map.2 all

theorem Flaw.forall_isOfValue_mono {merges merges' : Bool} {flaws : List Flaw}
    (all : ∀ flaw ∈ flaws, flaw.IsOfValue merges) (kept : merges = true → merges' = true) :
    ∀ flaw ∈ flaws, flaw.IsOfValue merges' :=
  fun flaw among => (all flaw among).mono kept

mutual

/-- Whatever is wrong with a node is a trouble with a value. -/
theorem flaws_isOfValue (node : Node) : ∀ flaw ∈ node.flaws, flaw.IsOfValue node.hasMerges := by
  have malformed (merges : Bool) (depth : Nat) :
      ∀ flaw ∈ [(depth, Trouble.malformed)], Flaw.IsOfValue merges flaw :=
    List.forall_mem_singleton.2 trivial
  cases node with
  | scalar tag text =>
      rw [Node.flaws]
      split
      · exact malformed _ 1
      · exact Built.flaws_isOfValue (Node.scalarBuilt_fails _)
  | sequence tag items =>
      rw [Node.hasMerges]
      cases tag with
      | sequence => exact Flaw.below_isOfValue (itemFlaws_isOfValue items)
      | pairs => exact Flaw.below_isOfValue (pairFlaws_isOfValue items)
      | _ => exact malformed _ _
  | mapping tag merges pairs =>
      have members : ∀ flaw ∈ (Node.memberFlaws pairs).map Flaw.below,
          Flaw.IsOfValue (Node.mapping tag merges pairs).hasMerges flaw := by
        refine Flaw.below_isOfValue (Flaw.forall_isOfValue_mono (memberFlaws_isOfValue pairs) ?_)
        exact fun inside => by simp [Node.hasMerges, inside]
      cases tag with
      | mapping => exact members
      | set => exact members
      | sequence => exact malformed _ 1
      | pairs => exact malformed _ 1
      | _ => exact Built.flaws_isOfValue (Node.scalarBuilt_fails _)

theorem itemFlaws_isOfValue (items : List Node) :
    ∀ flaw ∈ Node.itemFlaws items, flaw.IsOfValue (Node.itemsMerge items) := by
  cases items with
  | nil => simp [Node.itemFlaws]
  | cons item rest =>
      rw [Node.itemFlaws, Node.itemsMerge]
      refine List.forall_mem_append.2 ⟨?_, ?_⟩
      · exact Flaw.forall_isOfValue_mono (flaws_isOfValue item) fun inside => by simp [inside]
      · exact Flaw.forall_isOfValue_mono (itemFlaws_isOfValue rest) fun inside => by simp [inside]

theorem memberFlaws_isOfValue (pairs : List (Node × Node)) :
    ∀ flaw ∈ Node.memberFlaws pairs, flaw.IsOfValue (Node.pairsMerge pairs) := by
  cases pairs with
  | nil => simp [Node.memberFlaws]
  | cons pair rest =>
      obtain ⟨key, value⟩ := pair
      rw [Node.memberFlaws, Node.pairsMerge]
      refine List.forall_mem_append.2 ⟨?_, List.forall_mem_append.2 ⟨?_, ?_⟩⟩
      · exact Flaw.forall_isOfValue_mono (Built.flaws_isOfValue key.key_fails)
          fun inside => by simp [inside]
      · exact Flaw.forall_isOfValue_mono (flaws_isOfValue value) fun inside => by simp [inside]
      · exact Flaw.forall_isOfValue_mono (memberFlaws_isOfValue rest)
          fun inside => by simp [inside]

theorem pairFlaws_isOfValue (items : List Node) :
    ∀ flaw ∈ Node.pairFlaws items, flaw.IsOfValue (Node.itemsMerge items) := by
  cases items with
  | nil => simp [Node.pairFlaws]
  | cons item rest =>
      rw [Node.itemsMerge]
      have behind : ∀ flaw ∈ Node.pairFlaws rest,
          flaw.IsOfValue (item.hasMerges || Node.itemsMerge rest) :=
        Flaw.forall_isOfValue_mono (pairFlaws_isOfValue rest) fun inside => by simp [inside]
      have other : ∀ flaw ∈ (0, Trouble.malformed) :: Node.pairFlaws rest,
          Flaw.IsOfValue (item.hasMerges || Node.itemsMerge rest) flaw :=
        List.forall_mem_cons.2 ⟨trivial, behind⟩
      cases item with
      | scalar tag text => exact other
      | sequence tag items => exact other
      | mapping tag merges pairs =>
          match merges, pairs with
          | true, pairs => exact List.forall_mem_cons.2 ⟨rfl, behind⟩
          | false, [] => exact other
          | false, [(key, value)] =>
              rw [Node.pairFlaws]
              refine List.forall_mem_append.2 ⟨?_, List.forall_mem_append.2 ⟨?_, behind⟩⟩
              · exact Flaw.forall_isOfValue_mono (flaws_isOfValue key) fun inside => by
                  simp [Node.hasMerges, Node.pairsMerge, inside]
              · exact Flaw.forall_isOfValue_mono (flaws_isOfValue value) fun inside => by
                  simp [Node.hasMerges, Node.pairsMerge, inside]
          | false, _ :: _ :: _ => exact other

end

end AccessRules.Yaml
