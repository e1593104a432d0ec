import AccessRules.Proofs.Settings.Effective
import AccessRules.Proofs.Settings.Timeout
import AccessRules.Settings.Source

/-!
# The source that is chosen

Which source of rules is asked depends on the effective values of four settings alone. An address or
a file counts when it is named by a text that is not empty (`Names`); a value that is there, but
empty, hides the places behind it and still names nothing. How long an answer may take and what a
request shows are settings of their own (`Allows`, `Shows`); the time is the float that the
effective value stands for.

**`source_chosen`** says for settings that were read, wherever they came from, when the source is on
the network, when it is a file, and when there is none.
-/

namespace AccessRules.Settings

/-! ### Settings that count -/

/-- The settings that choose a source. -/
def sourceSettings : List String :=
  ["rules_url", "rules_file", "rules_timeout_seconds", "rules_auth_token"]

theorem isPlain_of_mem_sourceSettings {name : String} (among : name ∈ sourceSettings) :
    IsPlain name := by
  have all : ∀ name ∈ sourceSettings, IsPlain name := by decide +kernel
  exact all name among

/-- The effective value of a setting is the text, and the text is not empty. -/
def Names (origins : Origins) (name text : String) : Prop :=
  ∃ value, Effective origins name (some value) ∧ value.text? = some text ∧ text ≠ ""

/-- How long an answer may take: the seconds that the effective value stands for, or else ten. -/
def Allows (origins : Origins) (seconds : Float) : Prop :=
  Effective origins "rules_timeout_seconds" none ∧ seconds = 10.0 ∨
    ∃ value, Effective origins "rules_timeout_seconds" (some value) ∧
      StandsFor value seconds ∧ 0.0 < seconds

/-- The headers that a request shows: the effective token and no others, if there is one. -/
def Shows (origins : Origins) (headers : Document) : Prop :=
  (∃ token, Names origins "rules_auth_token" token ∧
    headers = .record [("Authorization", .text ("Bearer " ++ token))]) ∨
  (¬ ∃ token, Names origins "rules_auth_token" token) ∧ headers = .object []

section

variable {origins : Origins}

section

variable {name : String} (plain : IsPlain name)

include plain

theorem names_iff {text : String} :
    Names origins name text ↔ (origins.find? name).bind Document.text? = some text ∧ text ≠ "" := by
  simp [Names, effective_iff plain, Option.bind_eq_some_iff, ← exists_and_right, and_assoc]

variable {setting : Option String} (accepted : readOptional origins name = .ok setting)

include accepted

/-- What counts of a setting that was read is what its effective value names. -/
theorem nonempty_eq_some_iff {text : String} :
    nonempty setting = some text ↔ Names origins name text := by
  rw [names_iff plain, ← readOptional_eq accepted, nonempty, Option.filter_eq_some_iff]
  simp

theorem nonempty_eq_none_iff : nonempty setting = none ↔ ¬ ∃ text, Names origins name text := by
  simp only [← nonempty_eq_some_iff plain accepted, Option.eq_none_iff_forall_ne_some, not_exists,
    ne_eq]

end

variable {settings : Settings} (accepted : read origins = .ok settings)

include accepted

theorem allows_timeout : Allows origins settings.timeout := by
  have plain : IsPlain "rules_timeout_seconds" := isPlain_of_mem_sourceSettings (by decide)
  obtain ⟨-, -, -, -, -, timeout, -⟩ := read_ok_iff.1 accepted
  obtain ⟨absent, same⟩ | ⟨value, found, stands, positive⟩ := readPositive_cases timeout
  · exact Or.inl ⟨(effective_iff plain).2 absent, same⟩
  · exact Or.inr ⟨value, (effective_iff plain).2 found, standsFor_iff.2 stands, positive⟩

theorem shows_headers : Shows origins settings.headers := by
  have plain : IsPlain "rules_auth_token" := isPlain_of_mem_sourceSettings (by decide)
  obtain ⟨-, -, -, -, -, -, token, -⟩ := read_ok_iff.1 accepted
  unfold headers
  cases counts : nonempty settings.authToken with
  | some text => exact Or.inl ⟨text, (nonempty_eq_some_iff plain token).1 counts, rfl⟩
  | none => exact Or.inr ⟨(nonempty_eq_none_iff plain token).1 counts, rfl⟩

end

/-! ### The choice -/

/-- **The choice of a source.** The settings were read from what is given directly, the variables
of the surroundings and the text of a file of variables, if there is one. Their source is on the
network when the effective address is a text that is not empty: at that address, with the effective
time and the effective token. It is a file when no address is named and the effective file is. When
neither is named, there is no source, and the report says so. -/
theorem source_chosen {given : Members} {surroundings : List (String × String)}
    {text : Option String} {settings : Settings}
    (accepted : read (.ofText given surroundings text) = .ok settings) :
    let origins : Origins := .ofText given surroundings text
    ∃ seconds headers, Allows origins seconds ∧ Shows origins headers ∧
      (∀ address, settings.source = .ok (.network address) ↔
        ∃ url, Names origins "rules_url" url ∧
          address = ⟨.text url, .float seconds, headers⟩) ∧
      (∀ path, settings.source = .ok (.file path) ↔
        (¬ ∃ url, Names origins "rules_url" url) ∧
          ∃ file, Names origins "rules_file" file ∧ path = RuleFile.plainPath file) ∧
      ∀ failure, settings.source = .error failure ↔
        (¬ ∃ url, Names origins "rules_url" url) ∧ (¬ ∃ file, Names origins "rules_file" file) ∧
          failure = .report (.of .validation "No rule source configured"
            [("settings", .texts ["PERMISSIONS_RULES_URL", "PERMISSIONS_RULES_FILE"])]) := by
  intro origins
  have accepted : read origins = .ok settings := accepted
  -- Where the entries of the file come from does not matter here.
  clear_value origins
  have urlPlain : IsPlain "rules_url" := isPlain_of_mem_sourceSettings (by decide)
  have filePlain : IsPlain "rules_file" := isPlain_of_mem_sourceSettings (by decide)
  obtain ⟨-, -, -, url, file, -⟩ := read_ok_iff.1 accepted
  refine ⟨settings.timeout, settings.headers, allows_timeout accepted, shows_headers accepted, ?_⟩
  simp only [← nonempty_eq_some_iff urlPlain url, ← nonempty_eq_some_iff filePlain file, source,
    noSource, sourceVariables]
  cases nonempty settings.rulesUrl with
  | some url => simp [eq_comm]
  | none => cases nonempty settings.rulesFile <;> simp [eq_comm]

/-- How long an answer may take is settled by the effective value. -/
theorem Allows.eq_of_text {seconds : Float} {text : String} (allows : Allows origins seconds)
    (found : origins.find? "rules_timeout_seconds" = some (.text text)) :
    textFloat? text.toList = some seconds := by
  have plain : IsPlain "rules_timeout_seconds" := isPlain_of_mem_sourceSettings (by decide)
  obtain ⟨nothing, -⟩ | ⟨value, effective, stands, -⟩ := allows
  · have other := (effective_iff plain).1 nothing
    rw [found] at other
    cases other
  · obtain rfl : value = .text text :=
      Option.some.inj (((effective_iff plain).1 effective).symm.trans found)
    exact (toFloat_text_iff rfl).1 (standsFor_iff.1 stands)

/-- An empty address that is given directly hides the one of the surroundings, so that the rules are
in the file that the file of variables names. When a token is given instead, they are at that
address, and an answer may take the time of the surroundings. An address that is given under another
spelling of its name is passed over. -/
theorem source_chosen_behind_empty_address :
    let surroundings := [("PERMISSIONS_Rules_URL", "http://rules"),
      ("permissions_rules_timeout_seconds", " +2.5e0 ")]
    let text := some "export PERMISSIONS_RULES_FILE='all//rules' # YAML"
    let hidden : Origins := .ofText [(.text "rules_url", .text "")] surroundings text
    let shown : Origins := .ofText
      [(.text "rules_auth_token", .text "secret"), (.text "RULES_URL", .text "http://other")]
      surroundings text
    let settings : Settings :=
      ⟨"local", "info", "permissions", some "", some "all//rules", 2.5, none, true⟩
    let others : Settings :=
      { settings with rulesUrl := some "http://rules", authToken := some "secret" }
    read hidden = .ok settings ∧ settings.source = .ok (.file "all/rules") ∧
      read shown = .ok others ∧
      others.source = .ok (.network ⟨.text "http://rules", .float 2.5,
        .record [("Authorization", .text "Bearer secret")]⟩) := by
  intro surroundings text hidden shown settings others
  have urlPlain : IsPlain "rules_url" := isPlain_of_mem_sourceSettings (by decide)
  have filePlain : IsPlain "rules_file" := isPlain_of_mem_sourceSettings (by decide)
  have tokenPlain : IsPlain "rules_auth_token" := isPlain_of_mem_sourceSettings (by decide)
  have written : textFloat? " +2.5e0 ".toList = some 2.5 := by decide +kernel
  have time {origins : Origins}
      (found : origins.find? "rules_timeout_seconds" = some (.text " +2.5e0 ")) :
      readPositive origins "rules_timeout_seconds" defaultTimeout = .ok 2.5 := by
    have stands : toFloat (.text " +2.5e0 ") = .ok 2.5 := (toFloat_text_iff rfl).2 written
    have positive : (0.0 : Float) < 2.5 := by decide +kernel
    simp only [readPositive, found, stands, if_pos positive]
  have hiddenTime : hidden.find? "rules_timeout_seconds" = some (.text " +2.5e0 ") := by
    dsimp only [hidden, surroundings, text]
    rfl
  have shownTime : shown.find? "rules_timeout_seconds" = some (.text " +2.5e0 ") := by
    dsimp only [shown, surroundings, text]
    rfl
  have accepted : read hidden = .ok settings := by
    refine read_ok_iff.2 ⟨?_, ?_, ?_, ?_, ?_, time hiddenTime, ?_, ?_⟩
    all_goals
      dsimp only [hidden, settings, surroundings, text]
      rfl
  have othersAccepted : read shown = .ok others := by
    refine read_ok_iff.2 ⟨?_, ?_, ?_, ?_, ?_, time shownTime, ?_, ?_⟩
    all_goals
      dsimp only [shown, others, settings, surroundings, text]
      rfl
  obtain ⟨-, -, -, url, file, -⟩ := read_ok_iff.1 accepted
  obtain ⟨-, -, -, shownUrl, -, -, token, -⟩ := read_ok_iff.1 othersAccepted
  obtain ⟨-, -, -, -, -, isFile, -⟩ := source_chosen accepted
  obtain ⟨seconds, headers, allows, shows, isNetwork, -⟩ := source_chosen othersAccepted
  have unnamed := (nonempty_eq_none_iff urlPlain url).1 rfl
  have filed : Names hidden "rules_file" "all//rules" :=
    (nonempty_eq_some_iff filePlain file).1 rfl
  have named : Names shown "rules_url" "http://rules" :=
    (nonempty_eq_some_iff urlPlain shownUrl).1 rfl
  have secret : Names shown "rules_auth_token" "secret" :=
    (nonempty_eq_some_iff tokenPlain token).1 rfl
  obtain rfl : 2.5 = seconds :=
    Option.some.inj (written.symm.trans (allows.eq_of_text shownTime))
  obtain ⟨other, also, rfl⟩ | ⟨nothing, -⟩ := shows
  · have same := (nonempty_eq_some_iff tokenPlain token).2 also
    obtain rfl := Option.some.inj same
    exact ⟨accepted, (isFile _).2 ⟨unnamed, _, filed, rfl⟩, othersAccepted,
      (isNetwork _).2 ⟨_, named, rfl⟩⟩
  · exact absurd ⟨_, secret⟩ nothing

end AccessRules.Settings
