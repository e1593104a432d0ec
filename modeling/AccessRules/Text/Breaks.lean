/-!
# Line breaks

Lines may end with a line feed, a carriage return, or both in a row. Texts are read with line
feeds alone.
-/

namespace AccessRules.Text

/-- A text with every kind of line end turned into a line feed. -/
def unifyBreaks : List Char → List Char
  | [] => []
  | '\r' :: '\n' :: rest => '\n' :: unifyBreaks rest
  | '\r' :: rest => '\n' :: unifyBreaks rest
  | c :: rest => c :: unifyBreaks rest

/-- A unified text has no carriage returns. -/
theorem not_mem_unifyBreaks (text : List Char) : '\r' ∉ unifyBreaks text := by
  fun_induction unifyBreaks text with
  | case1 => simp
  | case2 rest ih => simpa using ih
  | case3 rest _ ih => simpa using ih
  | case4 c rest _ hc ih => grind

theorem mem_of_mem_unifyBreaks {text : List Char} {c : Char} (among : c ∈ unifyBreaks text) :
    c = '\n' ∨ c ∈ text := by
  fun_induction unifyBreaks text with
  | case1 => cases among
  | case2 rest ih => grind
  | case3 rest _ ih => grind
  | case4 c rest _ hc ih => grind

/-- A character that is no carriage return stays. -/
theorem unifyBreaks_cons {c : Char} (other : c ≠ '\r') (rest : List Char) :
    unifyBreaks (c :: rest) = c :: unifyBreaks rest := by
  rw [unifyBreaks]
  · rintro _ rfl
    exact absurd rfl other
  · exact other

theorem unifyBreaks_append_of_not_mem {front : List Char} (none : '\r' ∉ front)
    (rest : List Char) : unifyBreaks (front ++ rest) = front ++ unifyBreaks rest := by
  induction front with
  | nil => rfl
  | cons c front ih =>
      obtain ⟨other, others⟩ := not_or.1 (mt List.mem_cons.2 none)
      rw [List.cons_append, unifyBreaks_cons (Ne.symm other), ih others, List.cons_append]

/-- Two parts of a text are unified apart unless a line feed begins the second. -/
theorem unifyBreaks_append {rest : List Char} (apart : rest.head? ≠ some '\n')
    (front : List Char) : unifyBreaks (front ++ rest) = unifyBreaks front ++ unifyBreaks rest := by
  fun_induction unifyBreaks front with
  | case1 => rfl
  | case2 front ih => rw [List.cons_append, List.cons_append, unifyBreaks, ih, List.cons_append]
  | case3 front alone ih =>
      rw [List.cons_append, unifyBreaks, ih, List.cons_append]
      intro others same
      cases front with
      | nil => exact apart (by rw [← List.nil_append rest, same, List.head?_cons])
      | cons c front => exact alone front (by rw [(List.cons.inj same).1])
  | case4 c front _ other ih => rw [List.cons_append, unifyBreaks_cons other, ih, List.cons_append]

end AccessRules.Text
