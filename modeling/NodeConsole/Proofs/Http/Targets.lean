import NodeConsole.Http.Call
import NodeConsole.Proofs.Url.HostChars
/-!
URLs as targets of requests. The path and the query of a URL of the web never keep it from being a target;
its length does, and so do four marks in its host that no target has there.
-/

namespace NodeConsole

/-! ## Parts of URLs -/

namespace Url

structure IsWritten (url : Url) : Prop where
  host : ∀ host, url.host = some host → ∀ c ∈ host.chars, isHostChar c = true
  path : ∀ c ∈ url.path.chars, escapedInPath c = false
  query : ∀ asked, url.query = some asked → ∀ c ∈ asked, escapedInSpecialQuery c = false

theorem query_withTail {url : Url} {text asked : List Char} (silent : url.query = none)
    (told : (withTail url text).query = some asked) : ∃ query, asked = encodeQuery url.scheme query := by
  rw [withTail.eq_def] at told
  dsimp only at told
  split at told
  · cases told
    exact ⟨_, rfl⟩
  · rw [silent] at told
    cases told

theorem isWritten_ofChars {text : List Char} {url : Url} (read : ofChars text = .ok url)
    (web : (isSpecial url.scheme && !isFileScheme url.scheme) = true) : IsWritten url where
  host _ isHost := isHostChar_of_host read web isHost
  path c member := by
    rcases path_ofChars read web with ⟨path, isPath⟩
    rw [isPath] at member
    exact escapedInPath_of_mem_joinSegments member
  query asked told c member := by
    rcases exists_ofChars_iff.mp ⟨url, read⟩ with ⟨scheme, rest, split, _⟩
    rw [ofChars_scheme split read, Bool.and_eq_true, Bool.not_eq_true'] at web
    rw [ofChars, split] at read
    dsimp only at read
    rw [if_neg (by simp [web.2]), if_pos web.1] at read
    rcases of_map_eq_ok read with ⟨authority, _, rfl⟩
    rcases query_withTail rfl told with ⟨query, rfl⟩
    exact escapedInSpecialQuery_of_mem web.1 member

theorem IsWritten.withPath {url : Url} (written : url.IsWritten) (path : List Char) :
    (url.withPath path).IsWritten where
  host := written.host
  path _ member := escapedInPath_of_mem_withPath member
  query := written.query

theorem IsWritten.withQuery {url : Url} (written : url.IsWritten) (special : isSpecial url.scheme = true)
    (query : Option (List Char)) : (url.withQuery query).IsWritten where
  host := written.host
  path := written.path
  query asked told c member := by
    rw [Url.withQuery] at told
    rcases Option.map_eq_some_iff.mp told with ⟨text, _, rfl⟩
    exact escapedInSpecialQuery_of_mem special member

end Url

namespace Http

theorem isWritten_ofUrl {url : Url} (written : url.IsWritten) (method : String) :
    (Call.ofUrl method url).url.IsWritten := by
  rw [Call.ofUrl]
  split
  · exact written
  · exact ⟨written.host, written.path, written.query⟩

/-! ## Targets -/

def hostMarks : List Char :=
  "\"\x60\x7b\x7d".toList

/-- Whether a URL of the web is short enough to be a target, and its host plain enough. -/
structure FitsTarget (url : Url) : Prop where
  short : (Utf8.bytes url.text).length ≤ 65534
  plain : ∀ host, url.host = some host → ∀ mark ∈ hostMarks, mark ∉ host.chars

theorem of_ascii {P : Char → Prop} (each : ∀ n < 0x80, P (Char.ofNat n)) {c : Char}
    (ascii : c.toNat < 0x80) : P c := by
  have holds := each c.toNat ascii
  rwa [Char.ofNat_toNat] at holds

theorem isAuthorityChar_iff {c : Char} (written : Url.isHostChar c = true) :
    Target.isAuthorityChar c = true ↔ c ∉ hostMarks := by
  have each : ∀ n < 0x80, Url.isHostChar (Char.ofNat n) = true →
      (Target.isAuthorityChar (Char.ofNat n) = true ↔ Char.ofNat n ∉ hostMarks) := by
    decide +kernel
  have ascii : c.toNat < 0x80 := by
    rw [Url.isHostChar, Bool.and_eq_true, decide_eq_true_eq] at written
    exact written.1
  exact of_ascii (P := fun c => Url.isHostChar c = true →
    (Target.isAuthorityChar c = true ↔ c ∉ hostMarks)) each ascii written

theorem isPathChar_of_plain {c : Char} (plain : Url.escapedInPath c = false) :
    Target.isPathChar c = true := by
  have each : ∀ n < 0x80, Url.escapedInPath (Char.ofNat n) = false →
      Target.isPathChar (Char.ofNat n) = true := by
    decide +kernel
  have ascii : c.toNat < 0x80 := by
    simp only [Url.escapedInPath, Url.escapedInFragment, Url.escapedInText, Bool.or_eq_false_iff,
      decide_eq_false_iff_not] at plain
    omega
  exact of_ascii (P := fun c => Url.escapedInPath c = false → Target.isPathChar c = true) each ascii plain

theorem isQueryChar_of_plain {c : Char} (plain : Url.escapedInSpecialQuery c = false) :
    Target.isQueryChar c = true := by
  have each : ∀ n < 0x80, Url.escapedInSpecialQuery (Char.ofNat n) = false →
      Target.isQueryChar (Char.ofNat n) = true := by
    decide +kernel
  have ascii : c.toNat < 0x80 := by
    simp only [Url.escapedInSpecialQuery, Url.escapedInQuery, Url.escapedInText, Bool.or_eq_false_iff,
      decide_eq_false_iff_not] at plain
    omega
  exact of_ascii (P := fun c => Url.escapedInSpecialQuery c = false → Target.isQueryChar c = true) each
    ascii plain

/-- Of a URL of the web, only its length and its host decide whether it can be a target. -/
theorem isTarget_iff {url : Url} (written : url.IsWritten) : isTarget url = true ↔ FitsTarget url := by
  have path : url.path.chars.all Target.isPathChar = true := by
    rw [List.all_eq_true]
    intro c member
    exact isPathChar_of_plain (written.path c member)
  have query : url.query.all (·.all Target.isQueryChar) = true := by
    rw [Option.all_eq_true]
    intro asked told
    rw [List.all_eq_true]
    intro c member
    exact isQueryChar_of_plain (written.query asked told c member)
  rw [isTarget, path, query, Bool.and_true, Bool.and_true, Bool.and_eq_true, decide_eq_true_eq,
    Option.all_eq_true]
  constructor
  · rintro ⟨short, plain⟩
    refine ⟨short, fun host isHost mark isMark inside => ?_⟩
    have allowed := List.all_eq_true.mp (plain host isHost) mark inside
    exact (isAuthorityChar_iff (written.host host isHost mark inside)).mp allowed isMark
  · intro fits
    refine ⟨fits.short, fun host isHost => ?_⟩
    rw [List.all_eq_true]
    intro c inside
    apply (isAuthorityChar_iff (written.host host isHost c inside)).mpr
    intro isMark
    exact fits.plain host isHost c isMark inside

end Http

end NodeConsole
