import NodeConsole.Proofs.Settings.BaseUrl
/-!
Which configuration a command runs with. A file, if one is named, has to be good as a whole; only then do
the options of the command line take the places of its values, one by one.
-/

namespace NodeConsole

namespace Settings.Config

inductive Loaded (files : Files) : Option String → Config → Prop where
  | unnamed : Loaded files none ⟨defaultBaseUrl, defaultTimeout⟩
  | file {path : String} {config : Config} (read : ofFile files path = .ok config) :
      Loaded files (some path) config

section

variable {files : Files} {path baseUrl : Option String} {config : Config}

theorem loaded_cases (files : Files) (path : Option String) :
    (∃ place error, path = some place ∧ ofFile files place = .error error) ∨
      ∃ config, Loaded files path config := by
  cases path with
  | none => exact .inr ⟨_, .unnamed⟩
  | some place =>
      cases read : ofFile files place with
      | error error => exact .inl ⟨place, error, rfl, read⟩
      | ok config => exact .inr ⟨config, .file read⟩

theorem Loaded.elim_eq (loaded : Loaded files path config) : path.elim (.ok {}) (ofFile files) = .ok config := by
  cases loaded with
  | unnamed => rfl
  | file read => exact read

theorem resolve_of_file_error {place : String} {error : Error} (failed : ofFile files place = .error error)
    (baseUrl : Option String) (timeout : Option UInt64) :
    resolve files (some place) baseUrl timeout = .error error := by
  rw [resolve_eq, Option.elim_some, failed]
  rfl

theorem withBaseUrl_of_parse {text : String} {url : Url} (parsed : Url.parse text = .ok url) :
    (withBaseUrl text).map Config.baseUrl = .ok text := by
  have valid : validated { baseUrl := text } = .ok { baseUrl := text } := validated_of_parse parsed
  rw [withBaseUrl, valid]
  rfl

theorem withBaseUrl_of_parse_error {text : String} {reason : Url.Error}
    (failed : Url.parse text = .error reason) :
    (withBaseUrl text).map Config.baseUrl = .error (.badBaseUrl text reason) := by
  have invalid : validated { baseUrl := text } = .error (.badBaseUrl text reason) :=
    validated_of_parse_error failed
  rw [withBaseUrl, invalid]
  rfl

/-- Options that are good take the places of what was loaded. -/
theorem Loaded.resolve_eq_ok (loaded : Loaded files path config)
    (fits : ∀ text ∈ baseUrl, ∃ url, Url.parse text = .ok url) (timeout : Option UInt64) :
    resolve files path baseUrl timeout =
      .ok ⟨baseUrl.getD config.baseUrl, timeout.getD config.timeout⟩ := by
  rw [resolve_eq, loaded.elim_eq]
  cases baseUrl with
  | none => rfl
  | some text =>
      rcases fits text rfl with ⟨url, parsed⟩
      change (withBaseUrl text).map Config.baseUrl >>= _ = _
      rw [withBaseUrl_of_parse parsed]
      rfl

theorem Loaded.resolve_eq_error (loaded : Loaded files path config) {text : String} {reason : Url.Error}
    (failed : Url.parse text = .error reason) (timeout : Option UInt64) :
    resolve files path (some text) timeout = .error (.badBaseUrl text reason) := by
  rw [resolve_eq, loaded.elim_eq]
  change (withBaseUrl text).map Config.baseUrl >>= _ = _
  rw [withBaseUrl_of_parse_error failed]
  rfl

theorem resolve_eq_ok_iff {timeout : Option UInt64} {config : Config} :
    resolve files path baseUrl timeout = .ok config ↔
      ∃ loaded, Loaded files path loaded ∧ (∀ text ∈ baseUrl, ∃ url, Url.parse text = .ok url) ∧
        config.baseUrl = baseUrl.getD loaded.baseUrl ∧ config.timeout = timeout.getD loaded.timeout := by
  constructor
  · intro chosen
    rcases loaded_cases files path with ⟨place, error, rfl, failed⟩ | ⟨loaded, isLoaded⟩
    · cases chosen.symm.trans (resolve_of_file_error failed baseUrl timeout)
    · have fits : ∀ text ∈ baseUrl, ∃ url, Url.parse text = .ok url := by
        intro text given
        cases parsed : Url.parse text with
        | error reason =>
            rw [Option.mem_def.mp given, isLoaded.resolve_eq_error parsed timeout] at chosen
            cases chosen
        | ok url => exact ⟨url, rfl⟩
      rw [isLoaded.resolve_eq_ok fits timeout] at chosen
      cases chosen
      exact ⟨loaded, isLoaded, fits, rfl, rfl⟩
  · intro made
    rcases made with ⟨loaded, isLoaded, fits, baseUrlSame, timeoutSame⟩
    rw [isLoaded.resolve_eq_ok fits timeout, ← baseUrlSame, ← timeoutSame]

end

end Settings.Config

namespace Console

open Settings (Config)

structure Resolves (files : Files) (path baseUrl : Option String) (timeout : Option UInt64)
    (result : Except Failure Config) : Prop where
  ok_iff : ∀ config, result = .ok config ↔
    ∃ loaded, Config.Loaded files path loaded ∧ (∀ text ∈ baseUrl, ∃ url, Url.parse text = .ok url) ∧
      config.baseUrl = baseUrl.getD loaded.baseUrl ∧ config.timeout = timeout.getD loaded.timeout
  usable : ∀ config, result = .ok config → ∃ url, config.parsedBaseUrl = .ok url
  rejected : ∀ failure, result = .error failure →
    (∃ message, failure = .rejected message) ∧ failure.exitCode = 2
  fileFirst : ∀ place error, path = some place → Config.ofFile files place = .error error →
    result = .error (.ofConfigError error)
  optionThen : ∀ loaded text reason, Config.Loaded files path loaded → baseUrl = some text →
    Url.parse text = .error reason → result = .error (.ofConfigError (.badBaseUrl text reason))

theorem of_resolveConfig_error {files : Files} {path baseUrl : Option String} {timeout : Option UInt64}
    {failure : Failure} (failed : resolveConfig files path baseUrl timeout = .error failure) :
    ∃ error, Config.resolve files path baseUrl timeout = .error error ∧ failure = .ofConfigError error := by
  rw [resolveConfig] at failed
  cases resolved : Config.resolve files path baseUrl timeout with
  | error error =>
      rw [resolved] at failed
      cases failed
      exact ⟨error, rfl, rfl⟩
  | ok config =>
      rw [resolved] at failed
      cases failed

theorem resolveConfig_eq_ok_iff {files : Files} {path baseUrl : Option String} {timeout : Option UInt64}
    {config : Config} :
    resolveConfig files path baseUrl timeout = .ok config ↔
      Config.resolve files path baseUrl timeout = .ok config :=
  mapError_eq_ok_iff

/-- A configuration is had exactly with a good file and a good base URL, and each of its values comes from
the option, else from the file, else from the default. -/
theorem resolveConfig_resolves (files : Files) (path baseUrl : Option String) (timeout : Option UInt64) :
    Resolves files path baseUrl timeout (resolveConfig files path baseUrl timeout) where
  ok_iff config := resolveConfig_eq_ok_iff.trans Config.resolve_eq_ok_iff
  usable config chosen := by
    rcases Config.parses_of_resolve (resolveConfig_eq_ok_iff.mp chosen) with ⟨url, parsed⟩
    refine ⟨url, ?_⟩
    rw [Config.parsedBaseUrl, parsed]
    rfl
  rejected failure failed := by
    rcases of_resolveConfig_error failed with ⟨error, _, rfl⟩
    exact ⟨⟨_, rfl⟩, rfl⟩
  fileFirst place error named failed := by
    subst named
    rw [resolveConfig, Config.resolve_of_file_error failed]
    rfl
  optionThen loaded text reason isLoaded given failed := by
    subst given
    rw [resolveConfig, isLoaded.resolve_eq_error failed]
    rfl

end Console

end NodeConsole
