import NodeConsole.Console.Failure
import NodeConsole.Proofs.Url.Below
import NodeConsole.Settings.Endpoint
/-!
From a base URL to the URL of the settings. The base URL is checked where a configuration is read, but
what is asked for later is another text: the base URL without the slashes at its end, and a path behind
it.
-/

namespace NodeConsole.Settings

/-! ## Configurations -/

/-- A configuration that passed the check of its base URL, in one of the ways to get one. -/
inductive Config.Accepted : Config → Prop where
  | withBaseUrl {baseUrl : String} {config : Config}
      (made : Config.withBaseUrl baseUrl = .ok config) : Accepted config
  | ofText {text : String} {config : Config} (read : Config.ofText text = .ok config) :
      Accepted config
  | ofFile {files : Files} {path : String} {config : Config}
      (read : Config.ofFile files path = .ok config) : Accepted config
  | resolved {files : Files} {path baseUrl : Option String} {timeout : Option UInt64}
      {config : Config} (chosen : Console.resolveConfig files path baseUrl timeout = .ok config) :
      Accepted config

namespace Config

def Parses (config : Config) : Prop :=
  ∃ base, Url.parse config.baseUrl = .ok base

theorem validated_of_parse {config : Config} {url : Url} (parsed : Url.parse config.baseUrl = .ok url) :
    config.validated = .ok config := by
  rw [validated, parsedBaseUrl, parsed]
  rfl

theorem validated_of_parse_error {config : Config} {reason : Url.Error}
    (failed : Url.parse config.baseUrl = .error reason) :
    config.validated = .error (.badBaseUrl config.baseUrl reason) := by
  rw [validated, parsedBaseUrl, failed]
  rfl

theorem parses_of_validated {config result : Config} (valid : config.validated = .ok result) :
    result.Parses := by
  rw [validated] at valid
  split at valid
  · cases valid
  · next base parsed =>
    cases valid
    exact ⟨base, of_mapError_eq_ok parsed⟩

theorem parses_of_ofText {text : String} {config : Config} (read : ofText text = .ok config) :
    config.Parses := by
  rw [ofText] at read
  split at read
  · cases read
  · exact parses_of_validated read

theorem parses_of_ofFile {files : Files} {path : String} {config : Config}
    (read : ofFile files path = .ok config) : config.Parses := by
  rw [ofFile] at read
  split at read
  · cases read
  · exact parses_of_ofText read

theorem parses_default : ({} : Config).Parses := by
  have parsed : (Url.parse defaultBaseUrl).toBool = true := by decide +kernel
  cases read : Url.parse defaultBaseUrl with
  | error error =>
      rw [read] at parsed
      cases parsed
  | ok base => exact ⟨base, read⟩

theorem parses_of_resolve {files : Files} {path baseUrl : Option String} {timeout : Option UInt64}
    {config : Config} (chosen : resolve files path baseUrl timeout = .ok config) :
    config.Parses := by
  rw [resolve_eq] at chosen
  rcases bind_eq_ok chosen with ⟨found, fileRead, chosen⟩
  rcases bind_eq_ok chosen with ⟨text, textChosen, same⟩
  cases same
  have foundParses : found.Parses := by
    cases path with
    | none =>
        cases fileRead
        exact parses_default
    | some path => exact parses_of_ofFile fileRead
  cases baseUrl with
  | none =>
      cases textChosen
      exact foundParses
  | some baseUrl =>
      rcases of_map_eq_ok textChosen with ⟨made, valid, rfl⟩
      have madeParses : made.Parses := parses_of_validated valid
      exact madeParses

theorem Accepted.parses {config : Config} (accepted : config.Accepted) : config.Parses := by
  cases accepted with
  | withBaseUrl made => exact parses_of_validated made
  | ofText read => exact parses_of_ofText read
  | ofFile read => exact parses_of_ofFile read
  | resolved chosen => exact parses_of_resolve (of_mapError_eq_ok chosen)

end Config

/-! ## The URL of the settings -/

theorem isPlace_settings : Url.IsPlace "settings".toList where
  counts := Url.eq_false_of_all (by decide +kernel)
  single := by
    intro c first
    have letter : "settings".toList.head? = some 's' := by decide +kernel
    cases letter.symm.trans first
    rfl
  host := by
    intro scheme
    have openText : Url.IsOpen scheme "settings".toList := by
      have letters : ∀ special,
          "settings".toList.all (!Url.endsAuthority special ·) = true := by decide +kernel
      exact Url.eq_false_of_all (letters _)
    have whole : Url.splitHost false "settings".toList = ("settings".toList, []) := by
      decide +kernel
    have inWeb : Url.Host.ofSpecial "settings".toList = .ok (.named "settings".toList) := by
      decide +kernel
    have elsewhere : Url.Host.ofText "settings".toList = .ok (.named "settings".toList) := by
      decide +kernel
    -- A file has no port, so its host is read as a whole.
    cases file : Url.isFileScheme scheme with
    | true =>
        have readable := Url.isReadable_file_iff file openText (Url.closes_nil scheme)
        rw [List.append_nil] at readable
        exact readable.mpr (.inr (.inr ⟨_, inWeb⟩))
    | false =>
        rw [Url.IsReadable, if_neg (by simp [file]),
          Url.readAuthority_of_none openText (by decide), Url.readHost_eq, whole, inWeb, elsewhere]
        cases Url.isSpecial scheme <;> exact ⟨_, rfl⟩

/-- The URL of a path is that of the path below the text of the base URL. -/
theorem Endpoint.urlFor_eq (endpoint : Endpoint) (path : String) :
    endpoint.urlFor path =
      (Url.ofChars (Url.below endpoint.baseUrl.toList path.toList)).mapError
        (.badUrl (endpoint.urlText path)) := by
  rw [urlFor, Url.parse, urlText, String.toList_ofList]
  rfl

theorem urlFor_settingsPath (endpoint : Endpoint) :
    endpoint.urlFor settingsPath =
      (Url.ofChars (Url.below endpoint.baseUrl.toList ('/' :: "settings".toList))).mapError
        (.badUrl (endpoint.urlText settingsPath)) :=
  endpoint.urlFor_eq settingsPath

/-- A base URL that was accepted gives the settings a URL unless its text dangles: unless it ends in
its authority, in a lone mark of credentials or with blanks behind a host that takes none. -/
theorem Config.Accepted.url_iff {config : Config} (accepted : config.Accepted)
    (requestId : Option String) :
    (∃ url, Endpoint.urlFor ⟨config.baseUrl, requestId⟩ settingsPath = .ok url) ↔
      ¬Url.Dangles config.baseUrl.toList := by
  rcases accepted.parses with ⟨base, parsed⟩
  rw [urlFor_settingsPath, exists_mapError_ok_iff]
  exact Url.exists_ofChars_below_iff isPlace_settings parsed

theorem Config.url_of_slashes :
    Config.withBaseUrl "http://localhost:7412//" = .ok ⟨"http://localhost:7412//", 10⟩ ∧
      ∃ url, Endpoint.urlFor ⟨"http://localhost:7412//", none⟩ settingsPath = .ok url := by
  have made : Config.withBaseUrl "http://localhost:7412//" = .ok ⟨"http://localhost:7412//", 10⟩ := by
    decide +kernel
  have fits : ¬Url.Dangles "http://localhost:7412//".toList := by decide +kernel
  exact ⟨made, (Config.Accepted.url_iff (.withBaseUrl made) none).mpr fits⟩

theorem Config.no_url_of_space :
    Config.withBaseUrl "http://localhost:7412 " = .ok ⟨"http://localhost:7412 ", 10⟩ ∧
      Endpoint.urlFor ⟨"http://localhost:7412 ", none⟩ settingsPath =
        .error (.badUrl "http://localhost:7412 /settings" .badPort) := by
  decide +kernel

end NodeConsole.Settings
