import NodeConsole.Proofs.Settings.BaseUrl
import NodeConsole.Proofs.Url.Joining
/-!
Where the paths of resources end up. A path is joined to the text of a base URL, and the two are read
together: in a plain text the path comes behind that of the base URL, but a query or a fragment of the
base URL takes it in.
-/

namespace NodeConsole.Settings

/-! ## Plain base URLs -/

/-- A path that a URL takes as it is comes behind the path of a plain base URL. Slashes at the end of
the base URL make no difference, and nothing else of it changes. -/
theorem Endpoint.urlFor_of_plain {baseUrl path : String} {base : Url}
    (parsed : Url.parse baseUrl = .ok base) (http : base.isHttp = true)
    (plain : Url.IsPlainText baseUrl.toList) (plainPath : Url.IsPlainPath path.toList) :
    ∃ joined : Url.Path, joined.chars = Url.below base.path.chars path.toList ∧
      ∀ (slashes : Nat) (requestId : Option String),
        Endpoint.urlFor ⟨baseUrl ++ String.ofList (List.replicate slashes '/'), requestId⟩ path =
          .ok { base with path := joined, query := none, fragment := none } := by
  rcases Url.ofChars_below_of_plain plain plainPath parsed (Url.isWeb_of_isHttp http) with
    ⟨joined, chars, joinedRead⟩
  refine ⟨joined, chars, fun slashes requestId => ?_⟩
  rw [Endpoint.urlFor_eq, String.toList_append, String.toList_ofList, joinedRead]
  rfl

theorem Endpoint.urlFor_of_plain_credentials :
    ∃ joined : Url.Path, joined.chars = "/a//b/settings".toList ∧
      ∀ (slashes : Nat) (requestId : Option String),
        Endpoint.urlFor ⟨"HTTP://u:p@node:81/a//b/" ++ String.ofList (List.replicate slashes '/'),
            requestId⟩ "/settings" =
          .ok {
            scheme := "http".toList
            username := ['u']
            password := some ['p']
            host := some (.named "node".toList)
            port := some 81
            path := joined } := by
  have parsed : Url.parse "HTTP://u:p@node:81/a//b/" = .ok {
      scheme := "http".toList
      username := ['u']
      password := some ['p']
      host := some (.named "node".toList)
      port := some 81
      path := .segments [['a'], [], ['b'], []] } := by decide +kernel
  have plain : Url.IsPlainText "HTTP://u:p@node:81/a//b/".toList := by decide +kernel
  have plainPath : Url.IsPlainPath "/settings".toList := {
    rooted := by decide +kernel
    unescaped := Url.eq_false_of_all (by decide +kernel)
    noBackslash := by decide +kernel
    undotted := by decide +kernel }
  rcases Endpoint.urlFor_of_plain parsed (by decide) plain plainPath with ⟨joined, chars, reads⟩
  refine ⟨joined, ?_, reads⟩
  rw [chars]
  decide +kernel

/-! ## Base URLs with a query or a fragment -/

theorem isSegment_settings : Url.IsSegment "settings".toList where
  unended := Url.eq_false_of_all (by decide +kernel)
  single := Url.eq_false_of_all (by decide +kernel)
  undotted := by decide +kernel

def namesSettings (url : Url) : Prop :=
  (url.path.chars.splitOn '/').getLast? = some "settings".toList

theorem exists_endsPath_iff {text : List Char} :
    (∃ c ∈ text, Url.endsPath c = true) ↔ '?' ∈ text ∨ '#' ∈ text := by
  simp only [Url.endsPath, Bool.or_eq_true, beq_iff_eq]
  grind

/-- What becomes of the path of the settings below an accepted base URL of the web: it is the end of the
path that is asked for, but with a query or a fragment in the base URL the path asked for is just the
one of the base URL. -/
theorem Config.Accepted.path_of_settings {config : Config} (accepted : config.Accepted)
    (requestId : Option String) :
    ∃ base, Url.parse config.baseUrl = .ok base ∧
      (base.isHttp = true → ∀ url,
        Endpoint.urlFor ⟨config.baseUrl, requestId⟩ settingsPath = .ok url →
          (namesSettings url ↔
            ('?' ∉ config.baseUrl.toList ∧ '#' ∉ config.baseUrl.toList) ∨ namesSettings base) ∧
          ('?' ∈ config.baseUrl.toList ∨ '#' ∈ config.baseUrl.toList → url.path = base.path)) := by
  rcases accepted.parses with ⟨base, parsed⟩
  refine ⟨base, parsed, fun http url joined => ?_⟩
  rw [urlFor_settingsPath] at joined
  rcases Url.path_below isPlace_settings isSegment_settings parsed (Url.isWeb_of_isHttp http)
    (of_mapError_eq_ok joined) with ⟨same, named⟩
  rw [exists_endsPath_iff] at same
  refine ⟨?_, same⟩
  by_cases marked : '?' ∈ config.baseUrl.toList ∨ '#' ∈ config.baseUrl.toList
  · have unnamed : ¬('?' ∉ config.baseUrl.toList ∧ '#' ∉ config.baseUrl.toList) := by
      rwa [← not_or, not_not]
    rw [namesSettings, same marked, or_iff_right unnamed]
    rfl
  · have unmarked : ∀ c ∈ config.baseUrl.toList, Url.endsPath c = false := by
      intro c member
      by_contra ends
      exact marked (exists_endsPath_iff.mp ⟨c, member, by simpa using ends⟩)
    exact iff_of_true (named unmarked) (.inl (not_or.mp marked))

theorem Config.path_of_settings_below_slash :
    Config.withBaseUrl "http://node/manager/" = .ok ⟨"http://node/manager/", 10⟩ ∧
      ∃ url, Endpoint.urlFor ⟨"http://node/manager/", none⟩ settingsPath = .ok url ∧
        namesSettings url := by
  have made : Config.withBaseUrl "http://node/manager/" = .ok ⟨"http://node/manager/", 10⟩ := by
    decide +kernel
  have isHttp : (Url.parse "http://node/manager/").toOption.map Url.isHttp = some true := by
    decide +kernel
  have joined : Endpoint.urlFor ⟨"http://node/manager/", none⟩ settingsPath = .ok {
      scheme := "http".toList
      host := some (.named "node".toList)
      path := .segments ["manager".toList, "settings".toList] } := by decide +kernel
  rcases Config.Accepted.path_of_settings (.withBaseUrl made) none with ⟨base, parsed, settles⟩
  have http : base.isHttp = true := by simpa [parsed, Except.toOption] using isHttp
  exact ⟨made, _, joined, (settles http _ joined).1.mpr (.inl (by decide +kernel))⟩

theorem Config.settings_in_fragment :
    Config.withBaseUrl "http://localhost:7412/manager/v1#x" =
        .ok ⟨"http://localhost:7412/manager/v1#x", 10⟩ ∧
      (Url.parse "http://localhost:7412/manager/v1#x").toOption.map Url.isHttp = some true ∧
      ∃ url, Endpoint.urlFor ⟨"http://localhost:7412/manager/v1#x", none⟩ settingsPath = .ok url ∧
        url.path.chars = "/manager/v1".toList ∧ ¬namesSettings url := by
  refine ⟨by decide +kernel, by decide +kernel, {
    scheme := "http".toList
    host := some (.named "localhost".toList)
    port := some 7412
    path := .segments ["manager".toList, "v1".toList]
    fragment := some "x/settings".toList }, ?_, ?_, ?_⟩
  · decide +kernel
  · decide +kernel
  · rw [namesSettings]
    decide +kernel

end NodeConsole.Settings
