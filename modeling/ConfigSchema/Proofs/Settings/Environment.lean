import ConfigSchema.CommandLine.Basic
import ConfigSchema.Proofs.Program
import ConfigSchema.Proofs.Settings.Layers

/-! Texts from the environment. The environment guesses a type for every value, and a setting that is a text gets the
value printed again. Main statement: a text setting takes what its variable holds, read and printed again, whatever a
file says; the text arrives as it is exactly if it is not taken for a truth value or a number or is printed as it was
written. An option of the command line counts before it, and as it is. -/

namespace ConfigSchema

namespace Settings

def truth? (text : String) : Option Bool :=
  let lowered := String.ofList (text.toList.map Char.toLower)
  if lowered = "true" then some true else if lowered = "false" then some false else none

theorem variableValue_cases (text : String) :
    (∃ value, truth? text = some value ∧ variableValue text = .bool value) ∨
    (truth? text = none ∧ ∃ n, Real.signedWord? text.toList = some n ∧ variableValue text = .integer n) ∨
    (truth? text = none ∧ Real.signedWord? text.toList = none ∧
      ∃ x, Real.ofLiteral? text.toList = some x ∧ variableValue text = .real x) ∨
    (truth? text = none ∧ Real.signedWord? text.toList = none ∧ Real.ofLiteral? text.toList = none ∧
      variableValue text = .text text) := by
  unfold variableValue
  split
  · rename_i same
    exact .inl ⟨true, by rw [truth?, same]; rfl, rfl⟩
  · rename_i same
    exact .inl ⟨false, by rw [truth?, same]; rfl, rfl⟩
  · rename_i other another
    have neither : truth? text = none := (if_neg other).trans (if_neg another)
    refine .inr ?_
    cases word : Real.signedWord? text.toList with
    | some n => exact .inl ⟨neither, n, rfl, rfl⟩
    | none =>
      cases literal : Real.ofLiteral? text.toList with
      | some x => exact .inr (.inl ⟨neither, rfl, x, rfl, rfl⟩)
      | none => exact .inr (.inr ⟨neither, rfl, rfl, rfl⟩)

theorem asTable?_variableValue (text : String) : (variableValue text).asTable? = none := by
  obtain ⟨_, _, same⟩ | ⟨_, _, _, same⟩ | ⟨_, _, _, _, same⟩ | ⟨_, _, _, same⟩ := variableValue_cases text
  all_goals
    rw [same]
    rfl

/-- What a text setting gets from a variable that holds this text. -/
def arrived (text : String) : String := ((variableValue text).asText?).getD ""

theorem asText?_variableValue (text : String) : (variableValue text).asText? = some (arrived text) := by
  unfold arrived
  obtain ⟨_, _, same⟩ | ⟨_, _, _, same⟩ | ⟨_, _, _, _, same⟩ | ⟨_, _, _, same⟩ := variableValue_cases text
  all_goals
    rw [same]
    rfl

/-- A text arrives as it is exactly if it is how that is printed what it is taken for. -/
theorem arrived_eq_self_iff (text : String) : arrived text = text ↔
    (∀ value, truth? text = some value → text = if value then "true" else "false") ∧
    (∀ n, Real.signedWord? text.toList = some n → text = toString n) ∧
    (Real.signedWord? text.toList = none → ∀ x, Real.ofLiteral? text.toList = some x → text = x.text) := by
  unfold arrived
  obtain ⟨value, truth, same⟩ | ⟨truth, n, word, same⟩ | ⟨truth, word, x, literal, same⟩ |
    ⟨truth, word, literal, same⟩ := variableValue_cases text
  · rw [same, Setting.asText?, Option.getD_some]
    constructor
    · -- Neither of the two words is a number.
      rintro rfl
      cases value <;> decide
    · intro printed
      exact (printed.1 value truth).symm
  · simp [same, truth, word, Setting.asText?, eq_comm]
  · simp [same, truth, word, literal, Setting.asText?, eq_comm]
  · simp [same, truth, word, literal, Setting.asText?]

theorem load?_eq_some_iff {file : Option (String × String)} {environment : List (String × String)}
    {settings : Settings} : load? file environment = some settings ↔ ∃ fromFile,
      (file.elim (some []) fun named => fileEntries? named.1 named.2) = some fromFile ∧
        ofEntries? (Setting.overlayEntries (Setting.overlayEntries builtIn fromFile)
          (environmentEntries environment)) = some settings := by
  cases file with
  | none => simp [load?]
  | some named => exact Option.bind_eq_some_iff

end Settings

theorem CommandLine.settings_eq_ok_iff {line : CommandLine} {content : Option String}
    {environment : List (String × String)} {settings : Settings} :
    line.settings content environment = .ok settings ↔ ∃ loaded,
      Settings.load? (content.map fun content => (line.config, content)) environment = some loaded ∧
        (line.override loaded).problems.isEmpty = true ∧ line.override loaded = settings := by
  unfold CommandLine.settings
  cases Settings.load? (content.map fun content => (line.config, content)) environment with
  | none => simp
  | some loaded =>
    simp only [Option.some.injEq, exists_eq_left']
    split
    · rename_i sound
      simp only [Except.ok.injEq, sound, true_and]
    · rename_i broken
      simp only [reduceCtorEq, broken, false_and]

/-- The settings that are texts and may be missing. -/
inductive TextSetting where
  | token
  | organisation
  | application

namespace TextSetting

def name : TextSetting → String
  | token => "token"
  | organisation => "organisation"
  | application => "application"

def source : TextSetting → String
  | token => "AIRBORNE_SCHEMA_API__TOKEN"
  | organisation => "AIRBORNE_SCHEMA_API__ORGANISATION"
  | application => "AIRBORNE_SCHEMA_API__APPLICATION"

def option : TextSetting → CommandLine → Option String
  | token, line => line.token
  | organisation, line => line.organisation
  | application, line => line.application

def get (settings : Settings) : TextSetting → Option String
  | token => settings.api.token
  | organisation => settings.api.organisation
  | application => settings.api.application

def put (text : String) (settings : Settings) : TextSetting → Settings
  | token => { settings with api.token := some text }
  | organisation => { settings with api.organisation := some text }
  | application => { settings with api.application := some text }

theorem get_put (setting : TextSetting) (text : String) (settings : Settings) :
    setting.get (setting.put text settings) = some text := by
  cases setting <;> rfl

theorem eq_or_other (setting other : TextSetting) : other = setting ∨ other.name ≠ setting.name ∧
    ∀ text settings, other.get (setting.put text settings) = other.get settings := by
  cases setting <;> cases other <;> first | exact .inl rfl | exact .inr ⟨by decide, fun _ _ => rfl⟩

@[simp] theorem baseUrl_put (setting : TextSetting) (text : String) (settings : Settings) :
    (setting.put text settings).api.baseUrl = settings.api.baseUrl := by
  cases setting <;> rfl

@[simp] theorem timeoutSeconds_put (setting : TextSetting) (text : String) (settings : Settings) :
    (setting.put text settings).api.timeoutSeconds = settings.api.timeoutSeconds := by
  cases setting <;> rfl

@[simp] theorem logLevel_put (setting : TextSetting) (text : String) (settings : Settings) :
    (setting.put text settings).logLevel = settings.logLevel := by
  cases setting <;> rfl

theorem problems_put (setting : TextSetting) (text : String) (settings : Settings) :
    (setting.put text settings).problems = settings.problems := by
  cases setting <;> rfl

theorem override_put (setting : TextSetting) (text : String) (line : CommandLine) (settings : Settings) :
    line.override (setting.put text settings) =
      setting.put ((setting.option line).getD text) (line.override settings) := by
  have first : ∀ given : Option String, given.or (some text) = some (given.getD text) := by
    intro given
    cases given <;> rfl
  cases setting <;> simp only [put, option, CommandLine.override, first]

theorem keyPath_source (setting : TextSetting) :
    ∃ key, Settings.variableKey? setting.source = some key ∧ Setting.keyPath key = ["api", setting.name] := by
  cases setting <;> exact ⟨_, rfl, by decide +kernel⟩

end TextSetting

open TextSetting

structure Settings.ReadFrom (settings : Settings) (api logging : List (String × Setting)) : Prop where
  baseUrl : text? "base_url" api = some settings.api.baseUrl
  texts : ∀ setting : TextSetting, optionalText? setting.name api = some (setting.get settings)
  timeout : (Keyed.find? "timeout_seconds" api).bind Setting.asWord? = some settings.api.timeoutSeconds
  level : text? "level" logging = some settings.logLevel

theorem Setting.asTable?_eq_some_iff {value : Setting} {entries : List (String × Setting)} :
    value.asTable? = some entries ↔ value = .table entries := by
  cases value <;> simp [asTable?]

theorem Settings.ofEntries?_eq_some_iff {entries : List (String × Setting)} {settings : Settings} :
    ofEntries? entries = some settings ↔ ∃ api logging, Keyed.find? "api" entries = some (.table api) ∧
      Keyed.find? "logging" entries = some (.table logging) ∧ settings.ReadFrom api logging := by
  simp only [ofEntries?, Option.bind_eq_bind, Option.bind_eq_some_iff, Setting.asTable?_eq_some_iff,
    exists_eq_right]
  constructor
  · rintro ⟨api, found, baseUrl, url, token, bearer, organisation, owner, application, product, timeout, seconds,
      logging, logged, level, word, same⟩
    cases same
    refine ⟨api, logging, found, logged, url, fun setting => ?_, Option.bind_eq_some_iff.mpr seconds, word⟩
    cases setting
    · exact bearer
    · exact owner
    · exact product
  · rintro ⟨api, logging, found, logged, read⟩
    exact ⟨api, found, _, read.baseUrl, _, read.texts token, _, read.texts organisation, _, read.texts application,
      _, Option.bind_eq_some_iff.mp read.timeout, logging, logged, _, read.level, rfl⟩

namespace TextSetting

open Setting in
theorem ofEntries?_of_sameBut (setting : TextSetting) {first second : List (String × Setting)} {value : Setting}
    {text : String} {settings : Settings} (same : SameBut "api" setting.name first second)
    (stands : Stands "api" setting.name value second) (printed : value.asText? = some text)
    (read : Settings.ofEntries? first = some settings) :
    Settings.ofEntries? second = some (setting.put text settings) := by
  obtain ⟨within, found, here⟩ := stands
  obtain ⟨api, logging, listed, logged, said⟩ := Settings.ofEntries?_eq_some_iff.mp read
  have kept : ∀ other, other ≠ setting.name → Keyed.find? other within = Keyed.find? other api := by
    intro other elsewhere
    have beside := same.beside other elsewhere
    rwa [inside_of_find? found, inside_of_find? listed] at beside
  have logs : Keyed.find? "logging" second = some (table logging) := by rw [same.outside _ (by decide), logged]
  refine Settings.ofEntries?_eq_some_iff.mpr ⟨within, logging, found, logs, ?_, fun other => ?_, ?_, ?_⟩
  · rw [Settings.text?, kept _ (by cases setting <;> decide), baseUrl_put]
    exact said.baseUrl
  · obtain rfl | ⟨elsewhere, unchanged⟩ := setting.eq_or_other other
    · rw [Settings.optionalText?, here, get_put]
      cases value with
      | absent => cases printed
      | _ => exact congrArg (Option.map some) printed
    · rw [Settings.optionalText?, kept _ elsewhere, unchanged]
      exact said.texts other
  · rw [kept _ (by cases setting <;> decide), timeoutSeconds_put]
    exact said.timeout
  · rw [logLevel_put]
    exact said.level

/-- None of these variables sets what is at the place of the setting, above it or below it. -/
def SpareBy (setting : TextSetting) (environment : List (String × String)) : Prop :=
  ∀ entry ∈ environment, ∀ key, Settings.variableKey? entry.1 = some key →
    Path.Unrelated (Setting.keyPath key) ["api", setting.name]

theorem partsFrom_environmentEntries {setting : TextSetting} {environment : List (String × String)}
    (spare : setting.SpareBy environment) :
    Setting.PartsFrom (Settings.environmentEntries environment) "api" setting.name := by
  intro entry member
  obtain ⟨setter, listed, sets⟩ := List.mem_filterMap.mp member
  obtain ⟨key, named, rfl⟩ := Option.map_eq_some_iff.mp sets
  exact spare setter listed key named

/-- Whatever a file says, the variable gives the setting, if no later one does. -/
theorem load?_source (setting : TextSetting) {file : Option (String × String)} {before after : List (String × String)}
    {earlier : Option String} {settings : Settings} (spare : setting.SpareBy after)
    (loaded : Settings.load? file (before ++ (earlier.map (setting.source, ·)).toList ++ after) = some settings)
    (text : String) : Settings.load? file (before ++ (setting.source, text) :: after) =
      some (setting.put (Settings.arrived text) settings) := by
  obtain ⟨key, named, place⟩ := setting.keyPath_source
  have places : ∀ entry ∈ Settings.environmentEntries (earlier.map (setting.source, ·)).toList,
      Setting.keyPath entry.1 = ["api", setting.name] := by
    intro entry member
    obtain ⟨setter, listed, sets⟩ := List.mem_filterMap.mp member
    obtain ⟨other, -, same⟩ := Option.map_eq_some_iff.mp (Option.mem_toList.mp listed)
    cases same
    rw [named] at sets
    cases sets
    exact place
  have split : Settings.environmentEntries (before ++ (setting.source, text) :: after) =
      Settings.environmentEntries before ++
        (key, Settings.variableValue text) :: Settings.environmentEntries after := by
    rw [Settings.environmentEntries, List.filterMap_append, List.filterMap_cons, named]
    rfl
  rw [Settings.load?_eq_some_iff] at loaded ⊢
  obtain ⟨fromFile, read, typed⟩ := loaded
  rw [Settings.environmentEntries, List.filterMap_append, List.filterMap_append] at typed
  obtain ⟨same, stands⟩ := Setting.sameBut_of_layers (Settings.asTable?_variableValue text) place
    (Setting.overlayEntries Settings.builtIn fromFile) (Settings.environmentEntries before) places
    (partsFrom_environmentEntries spare)
  rw [split]
  exact ⟨fromFile, read, setting.ofEntries?_of_sameBut same stands (Settings.asText?_variableValue text) typed⟩

/-- Where the settings of a command line are valid with another text in the variable of a text setting, or without the
variable, they are valid with every text in it: if no later variable sets the same, the setting is the text of the
option, or without it what arrives of the text in the variable; and nothing else changes. A text arrives as it is
exactly if it is how that is printed what it is taken for. -/
theorem text_from_environment (setting : TextSetting) (line : CommandLine) (content : Option String)
    {before after : List (String × String)} (spare : setting.SpareBy after) (earlier : Option String)
    {settings : Settings}
    (valid : line.settings content (before ++ (earlier.map (setting.source, ·)).toList ++ after) = .ok settings)
    (text : String) :
    line.settings content (before ++ (setting.source, text) :: after) =
        .ok (setting.put ((setting.option line).getD (Settings.arrived text)) settings) ∧
      (Settings.arrived text = text ↔
        (∀ value, Settings.truth? text = some value → text = if value then "true" else "false") ∧
        (∀ n, Real.signedWord? text.toList = some n → text = toString n) ∧
        (Real.signedWord? text.toList = none → ∀ x, Real.ofLiteral? text.toList = some x → text = x.text)) := by
  refine ⟨?_, Settings.arrived_eq_self_iff text⟩
  rw [CommandLine.settings_eq_ok_iff] at valid ⊢
  obtain ⟨below, loaded, sound, rfl⟩ := valid
  refine ⟨_, setting.load?_source spare loaded text, ?_, setting.override_put _ line below⟩
  rw [setting.override_put, setting.problems_put]
  exact sound

def pullLine : CommandLine := ⟨"service.json", none, none, none, none, some "checkout", .pull none⟩

def pullFile : String := "\x7b\"api\":\x7b\"organisation\":[\"acme\"],\"timeout_seconds\":10\x7d\x7d"

def pullBefore : List (String × String) := [("AIRBORNE_SCHEMA_API__TIMEOUT_SECONDS", "20")]

def pullAfter : List (String × String) := [("AIRBORNE_SCHEMA_API__TOKEN", "1e3"), ("PATH", "/bin")]

def pullSettings : Settings := ⟨⟨"http://localhost:8081", some "1000", some "acme", some "checkout", 20⟩, "info"⟩

theorem text_from_environment_of_pullLine :
    organisation.SpareBy pullAfter ∧ pullLine.settings (some pullFile) (pullBefore ++ pullAfter) = .error .unreadable ∧
      pullLine.settings (some pullFile) (pullBefore ++ [(organisation.source, "acme")] ++ pullAfter) =
        .ok pullSettings ∧
      pullLine.settings (some pullFile) (pullBefore ++ (organisation.source, "shop-7") :: pullAfter) =
        .ok (organisation.put "shop-7" pullSettings) := by
  have spare : organisation.SpareBy pullAfter := by
    have other : Settings.variableKey? "AIRBORNE_SCHEMA_API__TOKEN" = some "api.token" := by decide +kernel
    have foreign : Settings.variableKey? "PATH" = none := by decide +kernel
    rw [SpareBy, pullAfter, List.forall_mem_cons, List.forall_mem_singleton]
    refine ⟨fun key named => ?_, fun key named => ?_⟩
    · cases other.symm.trans named
      exact ⟨by decide +kernel, by decide +kernel⟩
    · cases foreign.symm.trans named
  have valid : pullLine.settings (some pullFile) (pullBefore ++ [(organisation.source, "acme")] ++ pullAfter) =
      .ok pullSettings := by
    refine CommandLine.settings_eq_ok_iff.mpr
      ⟨⟨⟨"http://localhost:8081", some "1000", some "acme", none, 20⟩, "info"⟩, ?_, ?_, ?_⟩ <;> decide +kernel
  obtain ⟨changed, -⟩ :=
    text_from_environment organisation pullLine (some pullFile) spare (some "acme") valid "shop-7"
  have arrives : Settings.arrived "shop-7" = "shop-7" := by decide +kernel
  rw [arrives] at changed
  refine ⟨spare, ?_, valid, changed⟩
  have unreadable : Settings.load? (some (pullLine.config, pullFile)) (pullBefore ++ pullAfter) = none := by
    decide +kernel
  rw [CommandLine.settings, Option.map_some, unreadable]

def tokenLine : CommandLine := ⟨"service.json", none, none, none, some "acme", some "shop", .pull none⟩

theorem token_loses_zeros :
    (∃ settings, tokenLine.settings none [("AIRBORNE_SCHEMA_API__TOKEN", "007")] = .ok settings ∧
      settings.api.token = some "7") ∧
    ∃ settings, { tokenLine with token := some "007" }.settings none [] = .ok settings ∧
      settings.api.token = some "007" := by
  constructor
  · refine ⟨⟨⟨"http://localhost:8081", some "7", some "acme", some "shop", 30⟩, "info"⟩,
      CommandLine.settings_eq_ok_iff.mpr ⟨⟨⟨"http://localhost:8081", some "7", none, none, 30⟩, "info"⟩, ?_, ?_, ?_⟩,
      rfl⟩ <;> decide +kernel
  · refine ⟨⟨⟨"http://localhost:8081", some "007", some "acme", some "shop", 30⟩, "info"⟩,
      CommandLine.settings_eq_ok_iff.mpr ⟨⟨⟨"http://localhost:8081", none, none, none, 30⟩, "info"⟩, ?_, ?_, ?_⟩,
      rfl⟩ <;> decide +kernel

end TextSetting

end ConfigSchema
