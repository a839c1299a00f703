import NodeConsole.Proofs.Url.PlainPaths
/-!
Texts of URLs of the web, cut where their parts meet. Scheme, authority and what follows them are read
apart from each other, so that a text with another end has the same scheme and the same authority.
-/

namespace NodeConsole.Url

/-! ## Authorities of the web -/

theorem rest_of_readPort {scheme text rest : List Char} {port : Option Nat}
    (noBackslash : '\\' ∉ text) (read : readPort scheme text = .ok (port, rest)) : rest = [] := by
  have digits : ∀ c ∈ text, c.isDigit = true := by
    rcases readPort_parts read with digits | ⟨digits, after, whole, _⟩
    · exact digits
    · exact absurd (by simp [whole]) noBackslash
  have nothing : text.dropWhile Char.isDigit = [] := List.dropWhile_eq_nil_iff.mpr digits
  rw [readPort, nothing] at read
  split at read
  · cases read
  · split at read
    · cases read
    · split at read
      · cases read
        rfl
      · cases read
        rfl

theorem rest_of_readHost {scheme text rest : List Char} {host : Host} {port : Option Nat}
    (noBackslash : '\\' ∉ text) (read : readHost scheme text = .ok (host, port, rest)) : rest = [] := by
  rw [readHost_eq] at read
  split at read
  · cases read
  · rcases bind_eq_ok read with ⟨told, _, behind⟩
    split at behind
    · cases behind
      rfl
    · next mark after left =>
      split at behind
      · cases behind
      · rcases bind_eq_ok behind with ⟨told, portRead, same⟩
        cases same
        apply rest_of_readPort _ portRead
        intro member
        apply noBackslash
        rw [← splitHost_parts false text, left]
        simp [member]

theorem rest_of_readAuthority {scheme text : List Char} {authority : Authority}
    (special : isSpecial scheme = true) (openText : IsOpen scheme text)
    (read : readAuthority scheme text = .ok authority) : authority.rest = [] := by
  have noBackslash : '\\' ∉ hostPart text := by
    intro member
    have stays := isOpen_hostPart openText _ member
    rw [special] at stays
    cases stays
  cases split : splitCredentials? text with
  | none =>
      rw [hostPart_of_none split] at noBackslash
      rw [readAuthority_of_none openText split] at read
      rcases of_map_eq_ok read with ⟨told, hostRead, same⟩
      rw [same]
      exact rest_of_readHost noBackslash hostRead
  | some parts =>
      rw [hostPart_of_some split] at noBackslash
      rw [readAuthority_of_some openText split] at read
      rcases bind_eq_ok read with ⟨told, hostRead, checked⟩
      split at checked
      · cases checked
      · cases checked
        exact rest_of_readHost noBackslash hostRead

/-- A lone mark of credentials is no authority of the web, whatever follows it. -/
theorem readAuthority_lone {scheme : List Char} (special : isSpecial scheme = true) :
    readAuthority scheme ['@'] = .error .emptyHost := by
  simp [readAuthority, splitCredentials?, readHost, splitHost, endsAuthority, isSlash, endsPath,
    special, bind, Except.bind]

/-! ## Hosts of the web -/

theorem Domain.ne_nil_of_ofHost {host name : List Char} (read : ofHost host = .ok name) :
    name ≠ [] := by
  rw [ofHost] at read
  split at read
  · cases read
  · cases read
  · next empty _ =>
    cases read
    exact empty

theorem Host.ne_of_ofSpecial {text : List Char} {host : Host} (read : ofSpecial text = .ok host) :
    host ≠ .named [] := by
  rw [ofSpecial.eq_def] at read
  split at read
  · rw [ofBrackets] at read
    split at read
    · split at read
      · cases read
        exact Host.noConfusion
      · cases read
    · cases read
  · rcases bind_eq_ok read with ⟨name, nameRead, behind⟩
    split at behind
    · split at behind
      · cases behind
        exact Host.noConfusion
      · cases behind
    · cases behind
      intro same
      cases same
      exact Domain.ne_nil_of_ofHost nameRead rfl

theorem ofSpecial_of_readHost {scheme text rest : List Char} {host : Host} {port : Option Nat}
    (special : isSpecial scheme = true) (read : readHost scheme text = .ok (host, port, rest)) :
    ∃ told, Host.ofSpecial told = .ok host := by
  rw [readHost_eq, special] at read
  split at read
  · cases read
  · rcases bind_eq_ok read with ⟨told, hostRead, behind⟩
    split at behind
    · cases behind
      exact ⟨_, hostRead⟩
    · split at behind
      · cases behind
      · rcases bind_eq_ok behind with ⟨_, _, same⟩
        cases same
        exact ⟨_, hostRead⟩

theorem ofSpecial_of_readAuthority {scheme text : List Char} {authority : Authority}
    (special : isSpecial scheme = true) (read : readAuthority scheme text = .ok authority) :
    ∃ told, Host.ofSpecial told = .ok authority.host := by
  rw [readAuthority] at read
  dsimp only at read
  split at read
  · rcases bind_eq_ok read with ⟨told, hostRead, same⟩
    cases same
    exact ofSpecial_of_readHost special hostRead
  · split at read
    · cases read
    · rcases bind_eq_ok read with ⟨told, hostRead, same⟩
      split at same
      · cases same
      · cases same
        exact ofSpecial_of_readHost special hostRead

theorem exists_ofSpecial {text : List Char} {url : Url} (read : ofChars text = .ok url)
    (web : (isSpecial url.scheme && !isFileScheme url.scheme) = true) :
    ∃ host told, url.host = some host ∧ Host.ofSpecial told = .ok host := by
  rcases exists_ofChars_iff.mp ⟨url, read⟩ with ⟨scheme, rest, split, _⟩
  rw [ofChars_scheme split read] at web
  rcases ofChars_authority split (by rw [authorityIn?, if_pos web]) web read with
    ⟨authority, authorityRead, _, _, host, _⟩
  rcases ofSpecial_of_readAuthority (Bool.and_eq_true_iff.mp web).1 authorityRead with ⟨told, hostRead⟩
  exact ⟨authority.host, told, host, hostRead⟩

theorem exists_host {text : List Char} {url : Url} (read : ofChars text = .ok url)
    (web : (isSpecial url.scheme && !isFileScheme url.scheme) = true) :
    ∃ host, url.host = some host ∧ host ≠ .named [] := by
  rcases exists_ofSpecial read web with ⟨host, told, isHost, hostRead⟩
  exact ⟨host, isHost, Host.ne_of_ofSpecial hostRead⟩

/-! ## Texts -/

structure WebText where
  name : List Char
  scheme : List Char
  slashes : List Char
  authority : List Char
  after : List Char
  schemeChars : ∀ c ∈ name, isSchemeChar c = true
  alpha : name.head?.any Char.isAlpha = true
  lower : scheme = name.map Char.toLower
  web : (isSpecial scheme && !isFileScheme scheme) = true
  allSlashes : ∀ c ∈ slashes, isSlash true c = true
  present : authority ≠ []
  openAuthority : IsOpen scheme authority
  closes : Closes scheme after

namespace WebText

def front (text : WebText) : List Char :=
  text.name ++ ':' :: (text.slashes ++ text.authority)

def chars (text : WebText) : List Char :=
  text.front ++ text.after

theorem special (text : WebText) : isSpecial text.scheme = true :=
  (Bool.and_eq_true_iff.mp text.web).1

theorem noFile (text : WebText) : isFileScheme text.scheme = false := by
  simpa using (Bool.and_eq_true_iff.mp text.web).2

def continued (text : WebText) (after : List Char) (closes : Closes text.scheme after) : WebText :=
  { text with after := after, closes := closes }

theorem splitScheme?_chars (text : WebText) :
    splitScheme? text.chars =
      some (text.scheme, text.slashes ++ (text.authority ++ text.after)) := by
  apply splitScheme?_eq_some_iff.mpr
  exact ⟨text.name, by simp [chars, front], text.schemeChars, text.alpha, text.lower⟩

theorem dropWhile_slashes (text : WebText) :
    (text.slashes ++ (text.authority ++ text.after)).dropWhile (isSlash true) =
      text.authority ++ text.after := by
  rw [List.dropWhile_append_of_pos text.allSlashes]
  cases first : text.authority with
  | nil => exact absurd first text.present
  | cons c more =>
      have stays := text.openAuthority c (by simp [first])
      rw [text.special, endsAuthority, Bool.or_eq_false_iff] at stays
      exact List.dropWhile_cons_of_neg (by simp [stays.1])

theorem ofChars_eq (text : WebText) {whole : List Char} (same : significant whole = text.chars) :
    ofChars whole = (readAuthority text.scheme text.authority).map fun authority =>
      readAfterAuthority text.scheme (authority.followedBy text.after) := by
  rw [ofChars, same, splitScheme?_chars]
  dsimp only
  rw [if_neg (by simp [text.noFile]), if_pos text.special, dropWhile_slashes,
    readAuthority_append text.openAuthority text.closes]
  split
  · next lone =>
    rw [lone.1, readAuthority_lone text.special]
    rfl
  · cases readAuthority text.scheme text.authority <;> rfl

/-! ### Other ends -/

theorem endsPath_of_mem_front (text : WebText) {c : Char} (member : c ∈ text.front) :
    endsPath c = false := by
  rw [front, List.mem_append, List.mem_cons, List.mem_append] at member
  rcases member with inName | rfl | inSlashes | inAuthority
  · exact endsPath_of_apart (p := (!isSchemeChar ·)) (by simp [text.schemeChars c inName]) (by decide)
  · rfl
  · exact endsPath_of_apart (p := (!isSlash true ·)) (by simp [text.allSlashes c inSlashes]) (by decide)
  · have stays := text.openAuthority c inAuthority
    rw [endsAuthority, Bool.or_eq_false_iff] at stays
    exact stays.2

theorem getLast?_front (text : WebText) : text.front.getLast? = text.authority.getLast? := by
  rw [front, List.append_cons, ← List.append_assoc]
  exact List.getLast?_append_of_ne_nil _ text.present

theorem exists_after (text : WebText) {core slashes : List Char}
    (onlySlashes : ∀ c ∈ slashes, c = '/') (whole : text.chars = core ++ slashes) :
    ∃ after, text.after = after ++ slashes ∧ core = text.front ++ after := by
  rcases List.append_eq_append_iff.mp whole with ⟨after, cut, behind⟩ | ⟨more, cut, behind⟩
  · exact ⟨after, behind, cut⟩
  · rcases List.eq_nil_or_concat more with rfl | ⟨init, last, ends⟩
    · rw [List.nil_append] at behind
      rw [List.append_nil] at cut
      exact ⟨[], by rw [behind, List.nil_append], by rw [cut, List.append_nil]⟩
    · rw [List.concat_eq_append] at ends
      have isSlash : last = '/' := onlySlashes last (by simp [behind, ends])
      have lastOfFront : text.authority.getLast? = some '/' := by
        rw [← getLast?_front, cut, ends, ← List.append_assoc, List.getLast?_concat, isSlash]
      have stays := text.openAuthority '/' (List.mem_of_getLast? lastOfFront)
      rw [text.special] at stays
      cases stays

/-- Behind the start of what closes an authority anything can stand, and a path also behind nothing. -/
theorem closes_append (text : WebText) {after slashes path : List Char}
    (whole : text.after = after ++ slashes) (starts : after = [] → path.head? = some '/') :
    Closes text.scheme (after ++ path) := by
  cases after with
  | nil => exact closes_slash (starts rfl) text.scheme
  | cons c more =>
      have closes := text.closes
      rw [whole] at closes
      exact closes

/-- With another end a text is read as a URL with the same scheme and the same authority. -/
theorem ofChars_continued (text : WebText) {whole whole' after : List Char} {base : Url}
    (closes : Closes text.scheme after) (same : significant whole = text.chars)
    (same' : significant whole' = text.front ++ after) (read : ofChars whole = .ok base) :
    ofChars whole' = .ok (withTail
      { base with
        path := .segments (readSegments true (splitPath after).1)
        query := none
        fragment := none } (splitPath after).2) := by
  rw [ofChars_eq text same] at read
  rcases of_map_eq_ok read with ⟨authority, authorityRead, rfl⟩
  have ended := rest_of_readAuthority text.special text.openAuthority authorityRead
  have other : ofChars whole' = (readAuthority text.scheme text.authority).map fun authority =>
      readAfterAuthority text.scheme (authority.followedBy after) :=
    ofChars_eq (text.continued after closes) same'
  rw [other, authorityRead]
  simp [Except.map, readAfterAuthority, Authority.followedBy, ended, text.special]

theorem path_eq (text : WebText) {whole : List Char} {base : Url}
    (same : significant whole = text.chars) (read : ofChars whole = .ok base) :
    base.path = .segments (readSegments true (splitPath text.after).1) := by
  have again := ofChars_continued text text.closes same same read
  rw [read, Except.ok.injEq] at again
  rw [again, withTail_path]

end WebText

theorem exists_webText {whole : List Char} {url : Url} (read : ofChars whole = .ok url)
    (web : (isSpecial url.scheme && !isFileScheme url.scheme) = true) :
    ∃ text : WebText, significant whole = text.chars ∧ text.scheme = url.scheme := by
  rcases exists_ofChars_iff.mp ⟨url, read⟩ with ⟨scheme, rest, split, readable⟩
  rw [ofChars_scheme split read] at web ⊢
  rcases splitScheme?_eq_some_iff.mp split with ⟨name, parts, schemeChars, alpha, lower⟩
  have slashes := List.takeWhile_append_dropWhile (p := isSlash true) (l := rest)
  have cut := List.takeWhile_append_dropWhile (p := fun c => !endsAuthority (isSpecial scheme) c)
    (l := rest.dropWhile (isSlash true))
  have openAuthority : IsOpen scheme ((rest.dropWhile (isSlash true)).takeWhile fun c =>
      !endsAuthority (isSpecial scheme) c) :=
    fun c member => by simpa using List.mem_takeWhile_imp member
  have closes : Closes scheme ((rest.dropWhile (isSlash true)).dropWhile fun c =>
      !endsAuthority (isSpecial scheme) c) := by
    intro c head
    have first := List.head?_dropWhile_not (fun c => !endsAuthority (isSpecial scheme) c)
      (rest.dropWhile (isSlash true))
    simpa [head] using first
  have present : (rest.dropWhile (isSlash true)).takeWhile
      (fun c => !endsAuthority (isSpecial scheme) c) ≠ [] := by
    intro none
    have inside : IsReadable scheme (rest.dropWhile (isSlash true)) :=
      readable _ (by rw [authorityIn?, if_pos web])
    rw [← cut, isReadable_append_iff openAuthority closes, none] at inside
    have parts := Bool.and_eq_true_iff.mp web
    exact not_isReadable_nil parts.1 (by simpa using parts.2) inside.1
  refine ⟨⟨name, scheme, rest.takeWhile (isSlash true), _, _, schemeChars, alpha, lower, web,
    fun c member => List.mem_takeWhile_imp member, present, openAuthority, closes⟩, ?_, rfl⟩
  rw [parts, WebText.chars, WebText.front]
  simp [cut, slashes]

end NodeConsole.Url
