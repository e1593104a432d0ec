import AccessRules.Settings.Basic

/-!
# Files of plain lines

A line of a file of variables is plain when it can be read in one way only: the name and the value
stand on either side of an equals sign, without quotes, comments, references or blanks at their
ends. Such lines are read one by one (`line_write`), and a file of them gives back the assignments
that it was written from (`parse_written`). **`evaluate_written`** is what the file sets: its lines
set their variables in order, each to its value as it is written. Where no variable has two lines,
these are the variables of the lines (`settled_eq_map`).
-/

namespace AccessRules

namespace EnvFile

open AccessRules.Text

/-! ### Plain lines -/

/-- The characters that mean something by themselves in a value. -/
def valueMarks : List Char := "\n\r#$'\"".toList

/-- The name and the value of a plain line. -/
structure Assignment where
  name : List Char
  value : List Char
  name_ne_nil : name ≠ []
  name_solid : ∀ c ∈ name, c ≠ '=' ∧ c ≠ '#' ∧ c ≠ '\'' ∧ isBlank c = false
  value_plain : ∀ c ∈ value, c ∉ valueMarks
  value_head : ∀ c ∈ value.head?, isBlank c = false
  value_last : ∀ c ∈ value.getLast?, isBlank c = false

theorem dropWhile_eq_self {skip : Char → Bool} {text : List Char}
    (stops : ∀ c ∈ text.head?, skip c = false) : text.dropWhile skip = text := by
  cases text with
  | nil => rfl
  | cons c rest => exact List.dropWhile_cons_of_neg (by simp [stops c rfl])

theorem takeWhile_run {go : Char → Bool} {run rest : List Char} {stop : Char}
    (inside : ∀ c ∈ run, go c = true) (ends : go stop = false) :
    (run ++ stop :: rest).takeWhile go = run := by
  rw [List.takeWhile_append_of_pos inside, List.takeWhile_cons, ends, if_neg Bool.false_ne_true,
    List.append_nil]

theorem beforeComment_eq_self {behindBlank : Bool} {text : List Char} (noComment : '#' ∉ text) :
    beforeComment behindBlank text = text := by
  induction text generalizing behindBlank with
  | nil => rfl
  | cons c rest ih =>
      obtain ⟨other, others⟩ := not_or.1 (mt List.mem_cons.2 noComment)
      have plain : (c == '#') = false := beq_false_of_ne (Ne.symm other)
      rw [beforeComment, plain, Bool.false_and, if_neg Bool.false_ne_true, ih others]

theorem trimEnd_eq_self {text : List Char} (solid : ∀ c ∈ text.getLast?, isBlank c = false) :
    trimEnd text = text := by
  rw [trimEnd, dropWhile_eq_self (by simpa using solid), List.reverse_reverse]

namespace Assignment

/-- Write the line in front of a rest. -/
def write (assignment : Assignment) (rest : List Char) : List Char :=
  assignment.name ++ '=' :: (assignment.value ++ '\n' :: rest)

/-- The variable that the line sets, and its value. -/
def setting (assignment : Assignment) : String × Option String :=
  (String.ofList assignment.name, some (String.ofList assignment.value))

variable (assignment : Assignment)

/-- The word `export` is no word of its own in front of an equals sign. -/
theorem skipExport_write (rest : List Char) :
    skipExport (assignment.name ++ '=' :: rest) = assignment.name ++ '=' :: rest := by
  unfold skipExport
  dsimp only
  refine if_neg fun skipped => ?_
  obtain ⟨front, blank⟩ := Bool.and_eq_true_iff.1 skipped
  obtain ⟨behind, same⟩ := List.isPrefixOf_iff_prefix.1 front
  rw [← same, List.drop_left] at blank
  obtain ⟨others, named, rfl⟩ | ⟨others, word, equals⟩ := List.append_eq_append_iff.1 same
  · cases others with
    | nil => exact absurd (show isInlineBlank '=' = true from blank) (by decide)
    | cons c others =>
        have among : c ∈ assignment.name := by simp [named]
        simp [isInlineBlank, (assignment.name_solid c among).2.2.2] at blank
  · cases others with
    | nil =>
        rw [List.nil_append] at equals
        rw [← equals] at blank
        exact absurd (show isInlineBlank '=' = true from blank) (by decide)
    | cons c others =>
        obtain rfl := (List.cons.inj equals).1
        have among : '=' ∈ "export".toList := by simp [word]
        exact absurd among (by decide)

theorem name_write (rest : List Char) :
    EnvFile.name (assignment.name ++ '=' :: rest) =
      .ok (some (String.ofList assignment.name), '=' :: rest) := by
  obtain ⟨c, others, named⟩ := List.exists_cons_of_ne_nil assignment.name_ne_nil
  have solid := assignment.name_solid
  rw [named] at solid ⊢
  obtain ⟨-, noComment, noQuote, -⟩ := solid c List.mem_cons_self
  have whole : (c :: others ++ '=' :: rest).takeWhile
      (fun c => c != '=' && c != '#' && !isBlank c) = c :: others := by
    refine takeWhile_run (fun d among => ?_) (by decide)
    obtain ⟨noEquals, noComment, -, noBlank⟩ := solid d among
    simp [noEquals, noComment, noBlank]
  unfold EnvFile.name
  split
  next same => exact absurd (List.cons.inj same).1 noComment
  next same => exact absurd (List.cons.inj same).1 noQuote
  next =>
    dsimp only
    rw [whole, List.drop_left]
    rfl

theorem not_mem_value {c : Char} (mark : c ∈ valueMarks) : c ∉ assignment.value := fun among =>
  assignment.value_plain c among mark

theorem value_write (rest : List Char) :
    EnvFile.value (assignment.value ++ '\n' :: rest) =
      .ok (String.ofList assignment.value, '\n' :: rest) := by
  have whole : (assignment.value ++ '\n' :: rest).takeWhile (· != '\n') = assignment.value := by
    refine takeWhile_run (fun c among => ?_) (by decide)
    have other : c ≠ '\n' := by
      rintro rfl
      exact assignment.not_mem_value (by decide) among
    simpa using other
  -- A quote in front would be the first character of the value.
  have unquoted {quote : Char} (mark : quote ∈ valueMarks) (other : quote ≠ '\n')
      {others : List Char} : assignment.value ++ '\n' :: rest ≠ quote :: others := by
    intro same
    cases given : assignment.value with
    | nil =>
        rw [given] at same
        exact other (List.cons.inj same).1.symm
    | cons c more =>
        rw [given] at same
        have among : quote ∈ assignment.value := by
          rw [given, (List.cons.inj same).1]
          exact List.mem_cons_self
        exact assignment.not_mem_value mark among
  unfold EnvFile.value
  dsimp only
  split
  next same => exact absurd same (unquoted (by decide) (by decide))
  next same => exact absurd same (unquoted (by decide) (by decide))
  next =>
    rw [whole, List.drop_left, beforeComment_eq_self (assignment.not_mem_value (by decide)),
      trimEnd_eq_self assignment.value_last]

/-- A line begins with a character that is not blank. -/
theorem exists_write (rest : List Char) :
    ∃ c others, assignment.write rest = c :: others ∧ isBlank c = false := by
  obtain ⟨c, others, named⟩ := List.exists_cons_of_ne_nil assignment.name_ne_nil
  have among : c ∈ assignment.name := by rw [named]; exact List.mem_cons_self
  refine ⟨c, others ++ '=' :: (assignment.value ++ '\n' :: rest), ?_,
    (assignment.name_solid c among).2.2.2⟩
  rw [write, named, List.cons_append]

/-- A plain line is read back. -/
theorem line_write (rest : List Char) :
    line (assignment.write rest) = .ok
      (⟨some (String.ofList assignment.name), some (String.ofList assignment.value)⟩, rest) := by
  have equals : ('=' :: (assignment.value ++ '\n' :: rest)).dropWhile isInlineBlank =
      '=' :: (assignment.value ++ '\n' :: rest) := List.dropWhile_cons_of_neg (by decide)
  have begins : (assignment.value ++ '\n' :: rest).dropWhile isInlineBlank =
      assignment.value ++ '\n' :: rest := by
    refine dropWhile_eq_self fun c first => ?_
    cases given : assignment.value with
    | nil =>
        rw [given] at first
        obtain rfl := Option.some.inj first
        decide
    | cons d more =>
        rw [given] at first
        obtain rfl := Option.some.inj first
        simp [isInlineBlank, assignment.value_head d (by rw [given]; rfl)]
  have ends : endOfLine ('\n' :: rest) = .ok rest := by
    rw [endOfLine, List.dropWhile_cons_of_neg (by decide)]
    rfl
  rw [line, write, skipExport_write, name_write]
  dsimp only [bind, Except.bind]
  rw [equals]
  split
  next behind same =>
    obtain rfl := (List.cons.inj same).2
    rw [begins, value_write]
    dsimp only [pure, Except.pure]
    rw [ends]
  next other => exact absurd rfl (other _)

end Assignment

/-! ### Files of plain lines -/

/-- Write lines one after another. -/
def written (assignments : List Assignment) : List Char := assignments.foldr Assignment.write []

theorem written_cons (assignment : Assignment) (rest : List Assignment) :
    written (assignment :: rest) = assignment.write (written rest) := rfl

theorem lines_written {bound : Nat} {assignments : List Assignment}
    (enough : assignments.length < bound) :
    lines bound (written assignments) = assignments.map fun assignment =>
      ⟨some (String.ofList assignment.name), some (String.ofList assignment.value)⟩ := by
  induction bound generalizing assignments with
  | zero => cases enough
  | succ bound ih =>
      cases assignments with
      | nil => rfl
      | cons assignment rest =>
          obtain ⟨c, others, starts, solid⟩ := assignment.exists_write (written rest)
          have begins : (assignment.write (written rest)).dropWhile isBlank = c :: others := by
            rw [starts, List.dropWhile_cons_of_neg (by simp [solid])]
          rw [written_cons, lines, begins, List.map_cons, ← ih (Nat.lt_of_succ_lt_succ enough)]
          dsimp only
          rw [← starts, assignment.line_write]

theorem length_le_written (assignments : List Assignment) :
    assignments.length ≤ (written assignments).length := by
  induction assignments with
  | nil => exact Nat.le_refl 0
  | cons assignment rest ih =>
      rw [written_cons, Assignment.write]
      simp only [List.length_cons, List.length_append]
      omega

theorem parse_written (assignments : List Assignment) :
    parse (written assignments) = assignments.map Assignment.setting := by
  rw [parse, lines_written (Nat.lt_succ_of_le (length_le_written assignments)),
    List.filterMap_map, ← List.filterMap_eq_map]
  rfl

theorem resolve_eq_self {find? : String → Option (Option String)} {bound : Nat}
    {text : List Char} (noReference : '$' ∉ text) : resolve find? bound text = text := by
  induction bound generalizing text with
  | zero => cases text <;> rfl
  | succ bound ih =>
      cases text with
      | nil => rfl
      | cons c rest =>
          obtain ⟨other, others⟩ := not_or.1 (mt List.mem_cons.2 noReference)
          rw [resolve, ih others]
          rintro rest rfl
          exact absurd rfl other

/-- The variables that lines set. -/
def settled (assignments : List Assignment) : Variables :=
  (assignments.map Assignment.setting).foldl (fun earlier setting =>
    earlier.assign setting.1 setting.2) []

/-- **Files of plain lines.** Each line sets its variable to its value as it is written. -/
theorem evaluate_written (surroundings : List (String × String)) (assignments : List Assignment) :
    evaluate surroundings (written assignments) = settled assignments := by
  rw [evaluate, parse_written, settled, List.foldl_map, List.foldl_map]
  congr
  funext earlier assignment
  dsimp only [Assignment.setting]
  rw [Option.map_some, String.toList_ofList,
    resolve_eq_self (assignment.not_mem_value (by decide))]

theorem assign_of_not_mem {name : String} {value : Option String} {entries : Variables}
    (new : name ∉ entries.map Prod.fst) :
    entries.assign name value = entries ++ [(name, value)] := by
  induction entries with
  | nil => rfl
  | cons entry rest ih =>
      obtain ⟨other, old⟩ := entry
      obtain ⟨apart, new⟩ := not_or.1 (mt List.mem_cons.2 new)
      rw [Variables.assign, if_neg (by simpa using Ne.symm apart), ih new, List.cons_append]

theorem foldl_assign_eq_append {earlier settings : Variables}
    (apart : ((earlier ++ settings).map Prod.fst).Nodup) :
    settings.foldl (fun earlier setting => earlier.assign setting.1 setting.2) earlier =
      earlier ++ settings := by
  induction settings generalizing earlier with
  | nil => exact (List.append_nil earlier).symm
  | cons setting rest ih =>
      have new : setting.1 ∉ earlier.map Prod.fst := by
        rw [List.map_append, List.nodup_append] at apart
        exact fun among => apart.2.2 _ among _ List.mem_cons_self rfl
      rw [List.append_cons] at apart ⊢
      rw [List.foldl_cons, assign_of_not_mem new, ih apart]

/-- Lines for different variables set what they say, one after another. -/
theorem settled_eq_map {assignments : List Assignment}
    (apart : ((assignments.map Assignment.setting).map Prod.fst).Nodup) :
    settled assignments = assignments.map Assignment.setting :=
  foldl_assign_eq_append apart

theorem not_mem_written (assignments : List Assignment) : '\r' ∉ written assignments := by
  induction assignments with
  | nil => exact List.not_mem_nil
  | cons assignment rest ih =>
      have unnamed : '\r' ∉ assignment.name := fun among =>
        absurd (assignment.name_solid '\r' among).2.2.2 (by decide)
      have unset : '\r' ∉ assignment.value := assignment.not_mem_value (by decide)
      simp [written_cons, Assignment.write, unnamed, unset, ih]

end EnvFile

/-- A file of plain lines gives settings what its lines set. -/
theorem Settings.Origins.file_ofText_written (given : Members)
    (surroundings : List (String × String)) (assignments : List EnvFile.Assignment) :
    (Origins.ofText given surroundings
      (some (String.ofList (EnvFile.written assignments)))).file = EnvFile.settled assignments := by
  have unified := Text.unifyBreaks_append_of_not_mem (EnvFile.not_mem_written assignments) []
  rw [List.append_nil, Text.unifyBreaks, List.append_nil] at unified
  rw [Origins.ofText, Option.map_some, String.toList_ofList, unified,
    EnvFile.evaluate_written, Option.getD_some]

end AccessRules
