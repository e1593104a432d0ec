import AccessRules.Document.Basic

/-!
# Names among members

What is found under a name after members have been set, dropped or changed. Keys of other kinds than
texts may stand among the members; no name finds them.

Members are the same but for their order when the same values stand under every key (`SameMembers`).
-/

namespace AccessRules

/-- Only a text is the same key as a name. -/
theorem Key.same_text_iff (key : Key) (name : String) :
    key.same (.text name) = true ↔ key = .text name := by
  cases key <;> simp [Key.same, Key.numeric?]

namespace Members

/-- Setting a name changes what is found under it and nothing else. -/
@[simp] theorem get?_set (members : Members) (name other : String) (value : Document) :
    (members.set name value).get? other =
      if name = other then some value else members.get? other := by
  rw [set, get?, get?]
  induction members with
  | nil => simp [insert, find?, Key.same_text_iff]
  | cons member rest ih =>
      obtain ⟨key, old⟩ := member
      rw [insert]
      split
      next same =>
        obtain rfl := (Key.same_text_iff key name).1 same
        by_cases found : name = other <;> simp [find?, Key.same_text_iff, found]
      next apart =>
        rw [find?, find?, ih]
        split
        next found =>
          have unequal : name ≠ other := by
            rintro rfl
            exact apart found
          rw [if_neg unequal]
        next => rfl

/-- Dropping a name leaves nothing under it and changes nothing else. -/
@[simp] theorem get?_erase (members : Members) (name other : String) :
    (members.erase name).get? other = if name = other then none else members.get? other := by
  rw [erase, get?, get?]
  induction members with
  | nil => simp [find?]
  | cons member rest ih =>
      obtain ⟨key, old⟩ := member
      rw [List.filter_cons]
      split
      next kept =>
        rw [find?, find?, ih]
        split
        next found =>
          have unequal : name ≠ other := by
            rintro rfl
            simp [found] at kept
          rw [if_neg unequal]
        next => rfl
      next dropped =>
        have same : key = .text name := by simpa [Key.same_text_iff] using dropped
        rw [ih, find?, same]
        by_cases found : name = other
        · rw [if_pos found, if_pos found]
        · have apart : ¬ (Key.text name).same (.text other) = true := by
            simp [Key.same_text_iff, found]
          rw [if_neg apart]

/-- Changing the values changes what is found under a name. -/
theorem get?_map (change : Document → Document) (members : Members) (name : String) :
    get? (members.map fun member => (member.1, change member.2)) name =
      (members.get? name).map change := by
  rw [get?, get?]
  induction members with
  | nil => rfl
  | cons member rest ih =>
      rw [List.map_cons, find?, find?, ih]
      split <;> rfl

theorem has_eq (members : Members) (name : String) :
    members.has name = (members.get? name).isSome := rfl

/-! ### Members without their order -/

/-- The members that stand under a key, in order. -/
def under (members : Members) (key : Key) : Members := members.filter fun member => member.1 = key

theorem under_cons (key other : Key) (value : Document) (rest : Members) :
    under ((other, value) :: rest) key =
      if other = key then (other, value) :: rest.under key else rest.under key := by
  rw [under, List.filter_cons]
  by_cases same : other = key <;> simp [same, under]

theorem under_append (members others : Members) (key : Key) :
    under (members ++ others) key = members.under key ++ others.under key :=
  List.filter_append members others

/-- What is found under a name is the value of the first member that stands there. -/
theorem get?_eq_head? (members : Members) (name : String) :
    members.get? name = (members.under (.text name)).head?.map Prod.snd := by
  rw [get?]
  induction members with
  | nil => rfl
  | cons member rest ih =>
      obtain ⟨key, value⟩ := member
      rw [find?, under_cons, ih]
      by_cases same : key = .text name <;> simp [Key.same_text_iff, same]

/-- Nothing is found under a name that no field goes by. -/
theorem get?_eq_none_of_fields {fields : List (String × Document)} {name : String}
    (absent : name ∉ fields.map Prod.fst) :
    get? (fields.map fun field => (.text field.1, field.2)) name = none := by
  have nothing : under (fields.map fun field => (.text field.1, field.2)) (.text name) = [] := by
    refine List.filter_eq_nil_iff.2 fun member among => ?_
    obtain ⟨field, inside, rfl⟩ := List.mem_map.1 among
    rw [decide_eq_true_iff]
    rintro ⟨⟩
    exact absent (List.mem_map_of_mem inside)
  rw [get?_eq_head?, nothing]
  rfl

/-- Setting a name replaces the first member under it, or adds one. -/
@[simp] theorem under_set (members : Members) (name : String) (value : Document) (key : Key) :
    (members.set name value).under key =
      if key = .text name then (key, value) :: (members.under key).tail
      else members.under key := by
  rw [set]
  induction members with
  | nil =>
      rw [insert, under_cons]
      by_cases same : key = .text name <;> simp [same, eq_comm, under]
  | cons member rest ih =>
      obtain ⟨other, old⟩ := member
      rw [insert]
      split
      next found =>
        obtain rfl := (Key.same_text_iff other name).1 found
        rw [under_cons, under_cons]
        by_cases same : key = .text name <;> simp [same, eq_comm]
      next apart =>
        rw [Key.same_text_iff] at apart
        rw [under_cons, under_cons, ih]
        by_cases here : other = key
        · subst here
          simp [apart]
        · simp [here]

/-- The same members stand under every key. -/
def SameMembers (one other : Members) : Prop := ∀ key, one.under key = other.under key

theorem SameMembers.get?_eq {one other : Members} (same : SameMembers one other) (name : String) :
    one.get? name = other.get? name := by
  rw [get?_eq_head?, get?_eq_head?, same]

/-- Members of which the same stand under every key are the same but for their order. -/
theorem SameMembers.perm {one other : Members} (same : SameMembers one other) :
    one.Perm other := by
  induction one generalizing other with
  | nil =>
      cases other with
      | nil => exact .nil
      | cons member rest =>
          have nothing := same member.1
          simp [under] at nothing
  | cons member rest ih =>
      obtain ⟨key, value⟩ := member
      -- The first of the others under the same key is the same member.
      have first : other.under key = (key, value) :: under rest key := by
        rw [← same, under_cons, if_pos rfl]
      obtain ⟨before, after, rfl, earlier, -, later⟩ := List.filter_eq_cons_iff.1 first
      have none : under before key = [] := List.filter_eq_nil_iff.2 earlier
      have others : SameMembers rest (before ++ after) := by
        intro asked
        have all := same asked
        rw [under_append, under_cons] at all
        rw [under_append]
        by_cases here : key = asked
        · subst here
          rw [none, List.nil_append]
          exact later.symm
        · rwa [if_neg here, under_cons, if_neg here] at all
      exact ((ih others).cons _).trans List.perm_middle.symm

end Members

end AccessRules
