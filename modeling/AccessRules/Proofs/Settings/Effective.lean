import AccessRules.Proofs.Settings.EnvFile
import AccessRules.Proofs.Settings.Name

/-!
# Effective values

A setting may stand in three places: under its very name among what is given directly, and as a
variable of the surroundings or of a file under any spelling of its name. `HoldsLast` and `Absent`
say what stands in a list of entries under a name in any case, and `Effective` says which place
counts: the first one that has the name at all, even when what stands there is empty or nothing.

Every setting has just one effective value, the one that is looked up (`effective_iff`), and a
setting that is read comes from its effective value (`readOptional_eq`, `readPositive_cases`). A
file of plain lines has its say when the two places in front of it are silent
(`Effective.of_written`).
-/

namespace AccessRules.Settings

/-! ### Entries under a name -/

section

variable {α : Type}

/-- No entry goes by the name, in any case. -/
def Absent (name : String) (entries : List (String × α)) : Prop :=
  ∀ entry ∈ entries, ¬ GoesBy entry.1 name

/-- The last of the entries that go by the name, in any case, holds the value. -/
def HoldsLast (name : String) (entries : List (String × α)) (value : α) : Prop :=
  ∃ earlier spelling later, entries = earlier ++ (spelling, value) :: later ∧
    GoesBy spelling name ∧ Absent name later

variable {name : String} (plain : IsPlain name)

include plain

theorem lastNamed_eq_none_iff {entries : List (String × α)} :
    lastNamed name entries = none ↔ Absent name entries := by
  simp [lastNamed, Absent, lowerName_eq_iff plain]

theorem lastNamed_eq_some_iff {entries : List (String × α)} {value : α} :
    lastNamed name entries = some value ↔ HoldsLast name entries value := by
  rw [lastNamed, Option.map_eq_some_iff]
  constructor
  · rintro ⟨entry, found, rfl⟩
    obtain ⟨spelled, before, after, turned, apart⟩ := List.find?_eq_some_iff_append.1 found
    refine ⟨after.reverse, entry.1, before.reverse, ?_, ?_, fun other among => ?_⟩
    · rw [← List.reverse_reverse entries, turned]
      simp
    · simpa [lowerName_eq_iff plain] using spelled
    · simpa [lowerName_eq_iff plain] using apart other (List.mem_reverse.1 among)
  · rintro ⟨earlier, spelling, later, rfl, spelled, apart⟩
    refine ⟨(spelling, value), List.find?_eq_some_iff_append.2
      ⟨?_, later.reverse, earlier.reverse, by simp, fun other among => ?_⟩, rfl⟩
    · simpa [lowerName_eq_iff plain] using spelled
    · simpa [lowerName_eq_iff plain] using apart other (List.mem_reverse.1 among)

end

/-! ### Effective values -/

/-- What counts for a setting: what is given directly, or else the variable of the surroundings, or
else the variable of the file, or else nothing. A variable that the file names without a value
has none. -/
inductive Effective (origins : Origins) (name : String) : Option Document → Prop
  | given {value : Document} (there : origins.given.get? name = some value) :
      Effective origins name (some value)
  | surroundings {text : String} (ungiven : origins.given.get? name = none)
      (last : HoldsLast (variableLead ++ name) origins.surroundings text) :
      Effective origins name (some (.text text))
  | file {text : Option String} (ungiven : origins.given.get? name = none)
      (unset : Absent (variableLead ++ name) origins.surroundings)
      (last : HoldsLast (variableLead ++ name) origins.file text) :
      Effective origins name (text.map .text)
  | absent (ungiven : origins.given.get? name = none)
      (unset : Absent (variableLead ++ name) origins.surroundings)
      (unfiled : Absent (variableLead ++ name) origins.file) : Effective origins name none

section

variable {origins : Origins} {name : String} (plain : IsPlain name)

include plain

theorem isPlain_variable : IsPlain (variableLead ++ name) := by
  have lead : IsPlain variableLead := by decide
  intro c among
  rw [String.toList_append] at among
  exact (List.mem_append.1 among).elim (lead c) (plain c)

theorem Effective.find?_eq {value : Option Document} (effective : Effective origins name value) :
    origins.find? name = value := by
  have variablePlain := isPlain_variable plain
  rw [Origins.find?]
  cases effective with
  | given there =>
      rw [there]
      rfl
  | surroundings ungiven last =>
      rw [ungiven, (lastNamed_eq_some_iff variablePlain).2 last]
      rfl
  | file ungiven unset last =>
      rw [ungiven, (lastNamed_eq_none_iff variablePlain).2 unset,
        (lastNamed_eq_some_iff variablePlain).2 last]
      rfl
  | absent ungiven unset unfiled =>
      rw [ungiven, (lastNamed_eq_none_iff variablePlain).2 unset,
        (lastNamed_eq_none_iff variablePlain).2 unfiled]
      rfl

theorem exists_effective (origins : Origins) : ∃ value, Effective origins name value := by
  have variablePlain := isPlain_variable plain
  cases given : origins.given.get? name with
  | some value => exact ⟨_, .given given⟩
  | none =>
      cases set : lastNamed (variableLead ++ name) origins.surroundings with
      | some text => exact ⟨_, .surroundings given ((lastNamed_eq_some_iff variablePlain).1 set)⟩
      | none =>
          have unset := (lastNamed_eq_none_iff variablePlain).1 set
          cases filed : lastNamed (variableLead ++ name) origins.file with
          | some text =>
              exact ⟨_, .file given unset ((lastNamed_eq_some_iff variablePlain).1 filed)⟩
          | none => exact ⟨_, .absent given unset ((lastNamed_eq_none_iff variablePlain).1 filed)⟩

/-- A setting has just one effective value, the one that is looked up. -/
theorem effective_iff {value : Option Document} :
    Effective origins name value ↔ origins.find? name = value := by
  refine ⟨Effective.find?_eq plain, ?_⟩
  rintro rfl
  obtain ⟨value, effective⟩ := exists_effective plain origins
  rwa [effective.find?_eq plain]

end

/-- Where nothing else names a setting, its value is the one that a plain line writes. -/
theorem Effective.of_written {given : Members} {surroundings : List (String × String)}
    {assignments : List EnvFile.Assignment} {name text : String}
    (apart : ((assignments.map EnvFile.Assignment.setting).map Prod.fst).Nodup)
    (ungiven : given.get? name = none) (unset : Absent (variableLead ++ name) surroundings)
    (last : HoldsLast (variableLead ++ name) (assignments.map EnvFile.Assignment.setting)
      (some text)) :
    Effective (.ofText given surroundings (some (String.ofList (EnvFile.written assignments))))
      name (some (.text text)) := by
  rw [← EnvFile.settled_eq_map apart, ← Origins.file_ofText_written given surroundings] at last
  exact Effective.file ungiven unset last

/-! ### Settings that are read -/

section

variable {origins : Origins} {name : String}

/-- A setting that may be nothing is the text of its effective value, if that has one. -/
theorem readOptional_eq {setting : Option String}
    (accepted : readOptional origins name = .ok setting) :
    setting = (origins.find? name).bind Document.text? := by
  unfold readOptional at accepted
  split at accepted
  next absent =>
    cases accepted
    rw [absent]
    rfl
  next nothing =>
    cases accepted
    rw [nothing]
    rfl
  next value something found =>
    split at accepted
    next text isText =>
      cases accepted
      rw [found]
      exact isText.symm
    next => cases accepted

theorem readPositive_cases {default seconds : Float}
    (accepted : readPositive origins name default = .ok seconds) :
    origins.find? name = none ∧ seconds = default ∨
      ∃ value, origins.find? name = some value ∧ toFloat value = .ok seconds ∧ 0.0 < seconds := by
  unfold readPositive at accepted
  split at accepted
  next absent =>
    cases accepted
    exact Or.inl ⟨absent, rfl⟩
  next value found =>
    split at accepted
    next stands =>
      split at accepted
      next positive =>
        cases accepted
        exact Or.inr ⟨value, found, stands, positive⟩
      next => cases accepted
    next => cases accepted

/-- Settings are read when each of them is. -/
theorem read_ok_iff {settings : Settings} :
    read origins = .ok settings ↔
      readText origins "env" "local" = .ok settings.environment ∧
        readText origins "log_level" "info" = .ok settings.logLevel ∧
        readText origins "service_name" "permissions" = .ok settings.service ∧
        readOptional origins "rules_url" = .ok settings.rulesUrl ∧
        readOptional origins "rules_file" = .ok settings.rulesFile ∧
        readPositive origins "rules_timeout_seconds" defaultTimeout = .ok settings.timeout ∧
        readOptional origins "rules_auth_token" = .ok settings.authToken ∧
        readBool origins "enable_metrics" true = .ok settings.countsEvents := by
  unfold read
  dsimp only
  split
  next environment level service url file timeout token counts =>
    obtain ⟨environment', level', service', url', file', timeout', token', counts'⟩ := settings
    simp [*]
  next unread =>
    constructor
    · rintro ⟨⟩
    · rintro ⟨environment, level, service, url, file, timeout, token, counts⟩
      exact (unread _ _ _ _ _ _ _ _ environment level service url file timeout token counts).elim

end

end AccessRules.Settings
