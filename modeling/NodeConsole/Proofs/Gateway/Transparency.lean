import Mathlib.Data.List.DropRight
import NodeConsole.Proofs.Gateway.Destination
import NodeConsole.Proofs.Url.PlainPaths
/-!
What reaches the target of a gateway. A path in the area that has no dot segments and none of the marks
that a URL takes for something else is sent on as it is: it arrives with the same segments and stands for
the same bytes, and so does the query.
-/

namespace NodeConsole.Gateway

theorem withoutEndSlashes_eq (text : List Char) : withoutEndSlashes text = text.rdropWhile (· == '/') :=
  rfl

theorem head?_withoutEndSlashes {text : List Char} (nonempty : withoutEndSlashes text ≠ []) :
    (withoutEndSlashes text).head? = text.head? := by
  rw [withoutEndSlashes_eq] at nonempty ⊢
  rcases List.rdropWhile_prefix (· == '/') (l := text) with ⟨rest, whole⟩
  rcases List.exists_cons_of_ne_nil nonempty with ⟨first, more, kept⟩
  rw [kept] at whole ⊢
  rw [← whole]
  rfl

theorem exists_withoutEndSlashes_append (text : List Char) :
    ∃ slashes, text = withoutEndSlashes text ++ slashes ∧
      (slashes = [] ∨ ∃ more, slashes = '/' :: more) := by
  refine ⟨text.rtakeWhile (· == '/'), List.rdropWhile_append_rtakeWhile.symm, ?_⟩
  cases taken : text.rtakeWhile (· == '/') with
  | nil => exact .inl rfl
  | cons c more =>
      have slash := List.mem_rtakeWhile_imp (taken ▸ List.mem_cons_self (a := c))
      rw [beq_iff_eq] at slash
      exact .inr ⟨more, by rw [slash]⟩

namespace Config

open NodeConsole.Url

/-! ## Areas and base paths -/

theorem readArea_eq_ok_iff {text : String} {area : List Char} :
    readArea text = .ok area ↔
      text.toList.head? = some '/' ∧ withoutEndSlashes text.toList = area ∧ area ≠ [] := by
  rw [readArea]
  split
  · next good =>
    constructor
    · intro read
      cases read
      exact ⟨good.1, rfl, good.2⟩
    · intro parts
      rw [parts.2.1]
  · next bad =>
    constructor
    · intro read
      cases read
    · intro parts
      apply absurd _ bad
      rw [parts.2.1]
      exact ⟨parts.1, parts.2.2⟩

theorem head?_of_readArea {text : String} {area : List Char} (read : readArea text = .ok area) :
    area.head? = some '/' := by
  obtain ⟨rooted, trimmed, nonempty⟩ := readArea_eq_ok_iff.mp read
  rw [← trimmed, head?_withoutEndSlashes (trimmed ▸ nonempty)]
  exact rooted

theorem make_eq_ok_iff {listen : Listen} {area target : String} {config : Config} :
    make listen area target = .ok config ↔
      readArea area = .ok config.area ∧ readTarget target = .ok config.target ∧
        config.listen = listen := by
  constructor
  · intro made
    obtain ⟨area, areaRead, made⟩ := bind_eq_ok made
    obtain ⟨url, targetRead, made⟩ := bind_eq_ok made
    cases made
    exact ⟨areaRead, targetRead, rfl⟩
  · intro parts
    rw [make, parts.1, parts.2.1, ← parts.2.2]
    rfl

theorem head?_area {listen : Listen} {area target : String} {config : Config}
    (made : make listen area target = .ok config) : config.area.head? = some '/' :=
  head?_of_readArea (make_eq_ok_iff.mp made).1

/-- A path that can stand in front of another path as it is. -/
structure IsBase (base : List Char) : Prop where
  rooted : base = [] ∨ base.head? = some '/'
  plain : ∀ c ∈ base, escapedInPath c = false
  noBackslash : '\\' ∉ base
  noDots : ∀ segment ∈ base.splitOn '/', ¬IsDotSegment segment

/-- A part of a path that was read, from one slash up to another or to the end, can stand in front of
another path. -/
theorem isBase_of_eq_append {text front part behind : List Char}
    (whole : joinSegments (readSegments true text) = front ++ part ++ behind)
    (rooted : part = [] ∨ part.head? = some '/')
    (ending : behind = [] ∨ ∃ more, behind = '/' :: more) : IsBase part := by
  -- A character of the part is one of the slashes or lies in a segment that was read.
  have inSegment : ∀ c ∈ part, c = '/' ∨ ∃ segment ∈ readSegments true text, c ∈ segment := by
    intro c member
    have inWhole : c ∈ joinSegments (readSegments true text) :=
      whole ▸ List.mem_append_left behind (List.mem_append_right front member)
    rcases List.mem_flatMap.mp inWhole with ⟨segment, read, inside⟩
    exact (List.mem_cons.mp inside).imp_right fun deeper => ⟨segment, read, deeper⟩
  refine ⟨rooted, fun c member => ?plain, fun member => ?noBackslash, fun segment member => ?noDots⟩
  case plain =>
    rcases inSegment c member with rfl | ⟨segment, read, inside⟩
    · decide
    · exact escapedInPath_of_mem_readSegments read inside
  case noBackslash =>
    rcases inSegment _ member with slash | ⟨segment, read, inside⟩
    · cases slash
    · exact backslash_notMem_readSegments read inside
  case noDots =>
    cases part with
    | nil =>
        rw [List.splitOn_nil, List.mem_singleton] at member
        exact member ▸ not_isDotSegment_nil
    | cons c rest =>
        obtain rfl : c = '/' := by simpa using rooted
        rw [splitOn_cons_slash] at member
        rcases List.mem_cons.mp member with rfl | later
        · exact not_isDotSegment_nil
        · have inRest : segment ∈ (rest ++ behind).splitOn '/' := by
            rcases ending with rfl | ⟨more, rfl⟩
            · rw [List.append_nil]
              exact later
            · rw [splitOn_append_slash]
              exact List.mem_append_left _ later
          have inWhole : segment ∈ [] :: readSegments true text := by
            rw [← splitOn_joinSegments_readSegments, whole, List.append_assoc, List.cons_append,
              splitOn_append_slash]
            exact List.mem_append_right _ inRest
          rcases List.mem_cons.mp inWhole with rfl | read
          · exact not_isDotSegment_nil
          · exact (of_mem_readSegments read).2

theorem isBase_withoutEndSlashes {text base : List Char}
    (trimmed : withoutEndSlashes (joinSegments (readSegments true text)) = base) : IsBase base := by
  rcases exists_withoutEndSlashes_append (joinSegments (readSegments true text)) with
    ⟨slashes, whole, ending⟩
  rw [trimmed, ← List.nil_append base] at whole
  refine isBase_of_eq_append whole ?_ ending
  by_cases empty : base = []
  · exact .inl empty
  · rw [← trimmed] at empty
    rw [← trimmed, head?_withoutEndSlashes empty]
    cases read : readSegments true text with
    | nil =>
        rw [read] at empty
        exact absurd rfl empty
    | cons first rest => exact .inr rfl

theorem isBase_basePath {listen : Listen} {area target : String} {config : Config}
    (made : make listen area target = .ok config) : IsBase config.basePath := by
  rcases make_target made with ⟨parsed, http, _⟩
  rcases path_ofChars parsed (isWeb_of_isHttp http) with ⟨path, read⟩
  have base : withoutEndSlashes (joinSegments (readSegments true path)) = config.basePath := by
    rw [basePath, read, Path.chars]
  exact isBase_withoutEndSlashes base

/-! ## What arrives -/

structure IsOrdinary (path : List Char) : Prop where
  clean : ∀ c ∈ path, isIgnored c = false
  noBackslash : '\\' ∉ path
  noDots : ∀ segment ∈ path.splitOn '/', ¬IsDotSegment segment

theorem IsBase.append {base path : List Char} (isBase : IsBase base) (ordinary : IsOrdinary path)
    (rooted : path.head? = some '/') : IsOrdinary (base ++ path) where
  clean c member := by
    rcases List.mem_append.mp member with inBase | inPath
    · exact isIgnored_of_plain (isBase.plain c inBase)
    · exact ordinary.clean c inPath
  noBackslash member := by
    rcases List.mem_append.mp member with inBase | inPath
    · exact isBase.noBackslash inBase
    · exact ordinary.noBackslash inPath
  noDots segment member := by
    cases path with
    | nil => cases rooted
    | cons c rest =>
        rw [List.head?_cons, Option.some.injEq] at rooted
        subst rooted
        rw [splitOn_append_slash] at member
        rcases List.mem_append.mp member with inBase | inPath
        · exact isBase.noDots segment inBase
        · apply ordinary.noDots segment
          rw [splitOn_cons_slash]
          exact List.mem_cons_of_mem _ inPath

theorem head?_of_covers {config : Config} (rooted : config.area.head? = some '/') {path : List Char}
    (covered : config.covers path = true) : path.head? = some '/' := by
  rcases covers_iff.mp covered with rfl | ⟨rest, rfl⟩
  · exact rooted
  · rw [List.head?_append, rooted]
    rfl

theorem covers_percentEncode {config : Config} (plain : ∀ c ∈ config.area, escapedInPath c = false)
    {path : List Char} (covered : config.covers path = true) :
    config.covers (percentEncode escapedInPath path) = true := by
  apply covers_iff.mpr
  rcases covers_iff.mp covered with rfl | ⟨rest, rfl⟩
  · exact .inl (percentEncode_eq_self plain)
  · right
    refine ⟨percentEncode escapedInPath rest, ?_⟩
    rw [percentEncode_append, percentEncode_eq_self plain, percentEncode_cons_of_plain (by decide)]

/-- Where an ordinary path in the area is sent: it is encoded behind the path of the target. -/
theorem destination?_eq_some_of_isOrdinary {config : Config} (isBase : IsBase config.basePath)
    (rooted : config.area.head? = some '/') (plain : ∀ c ∈ config.area, escapedInPath c = false)
    {path : List Char} (covered : config.covers path = true) (ordinary : IsOrdinary path)
    (query : Option (List Char)) :
    ∃ url, config.destination? path query = some url ∧
      url = (config.target.withPath (config.basePath ++ path)).withQuery query ∧
      url.path.chars = percentEncode escapedInPath (config.basePath ++ path) := by
  have pathRooted := head?_of_covers rooted covered
  have whole := isBase.append ordinary pathRooted
  have wholeRooted : (config.basePath ++ path).head? = some '/' := by
    rcases isBase.rooted with empty | starts
    · rw [empty]
      exact pathRooted
    · rw [List.head?_append, starts]
      rfl
  have encoded := path_withPath config.target whole.clean whole.noBackslash whole.noDots wholeRooted
  -- Without the path of the target, the encoded path lies in the area again.
  refine ⟨_, destination?_eq_some_iff.mpr ⟨covered, rfl, ?_⟩, rfl, encoded⟩
  refine ⟨percentEncode escapedInPath path, ?_, covers_percentEncode plain covered⟩
  rw [← percentEncode_eq_self isBase.plain, ← percentEncode_append, percentEncode_eq_self isBase.plain]
  exact encoded

theorem length_splitOn_percentEncode (path : List Char) :
    ((percentEncode escapedInPath path).splitOn '/').length = (path.splitOn '/').length := by
  rw [splitOn_percentEncode (by decide), List.length_map]

theorem percentDecode_encodeQuery (scheme : List Char) {asked : List Char}
    (clean : ∀ c ∈ asked, isIgnored c = false) :
    percentDecode (Utf8.encode (encodeQuery scheme (withoutIgnored asked))) =
      percentDecode (Utf8.encode asked) := by
  rw [withoutIgnored_eq_self clean, encodeQuery]
  exact percentDecode_percentEncode (isEscapeClass_query scheme) asked

/-- A gateway hands on what was asked for. A path of its area that a URL takes as it is reaches the
target, behind the path of the target, with all its segments and the bytes that it stands for; so does
the query, present exactly if it was asked for, and a query of the target itself plays no part. -/
theorem destination_transparent {listen : Listen} {area target : String} {config : Config}
    (made : make listen area target = .ok config)
    (plainArea : ∀ c ∈ config.area, escapedInPath c = false) {path : List Char}
    (covered : config.covers path = true) (ordinary : IsOrdinary path) (query : Option (List Char))
    (cleanQuery : ∀ asked ∈ query, ∀ c ∈ asked, isIgnored c = false) :
    ∃ url, config.destination? path query = some url ∧
      percentDecode (Utf8.encode url.path.chars) =
        percentDecode (Utf8.encode (config.basePath ++ path)) ∧
      (url.path.chars.splitOn '/').length = ((config.basePath ++ path).splitOn '/').length ∧
      (url.query = none ↔ query = none) ∧
      (∀ asked, query = some asked → ∃ sent, url.query = some sent ∧
        percentDecode (Utf8.encode sent) = percentDecode (Utf8.encode asked)) ∧
      ∀ own, { config with target := { config.target with query := own } }.destination? path query =
        some url := by
  rcases destination?_eq_some_of_isOrdinary (isBase_basePath made) (head?_area made) plainArea covered
    ordinary query with ⟨url, sent, rfl, encoded⟩
  refine ⟨_, sent, ?_, ?_, ?_, ?_, fun own => sent⟩
  · rw [encoded, percentDecode_percentEncode isEscapeClass_path]
  · rw [encoded, length_splitOn_percentEncode]
  · exact Option.map_eq_none_iff
  · rintro asked rfl
    exact ⟨_, rfl, percentDecode_encodeQuery _ (cleanQuery asked rfl)⟩

theorem destination_transparent_of_marks :
    ∃ url, nodeGateway.destination? "/manager//% %4é%41?x#y/%2E%2Ez".toList (some []) = some url ∧
      percentDecode (Utf8.encode url.path.chars) =
        Utf8.bytes "/node-a/manager//% %4éA?x#y/..z" ∧
      (url.path.chars.splitOn '/').length = 6 ∧ url.query ≠ none := by
  have clean : "/manager//% %4é%41?x#y/%2E%2Ez".toList.all (!isIgnored ·) = true := by decide
  have ordinary : IsOrdinary "/manager//% %4é%41?x#y/%2E%2Ez".toList :=
    ⟨by simpa using clean, by decide, by decide⟩
  have plainArea : nodeGateway.area.all (!escapedInPath ·) = true := by decide
  rcases destination_transparent make_nodeGateway (by simpa using plainArea) (by decide) ordinary
    (some []) (by simp) with ⟨url, sent, path, segments, query, _⟩
  refine ⟨url, sent, path.trans (by decide), segments.trans (by decide), ?_⟩
  intro absent
  cases query.mp absent

end Config

end NodeConsole.Gateway
