import NodeConsole.Proofs.Gateway.Transparency
import NodeConsole.Proofs.Url.Climbing
/-!
What the area of a gateway lets through. An area that a URL would write differently is never served at
all. A path that, read by itself, leaves the area is let through all the same if it leads up into the
path of the target and comes down again by the way it went.
-/

namespace NodeConsole.Gateway.Config

open NodeConsole.Url

/-! ## Areas that are served -/

theorem IsBase.isOrdinary {base : List Char} (isBase : IsBase base) : IsOrdinary base where
  clean c member := isIgnored_of_plain (isBase.plain c member)
  noBackslash := isBase.noBackslash
  noDots := isBase.noDots

/-- The area stands in every URL that requests are sent on to. -/
theorem isBase_area {config : Config} (rooted : config.area.head? = some '/') {path : List Char}
    {query : Option (List Char)} {url : Url} (sent : config.destination? path query = some url) :
    IsBase config.area := by
  rcases destination?_eq_some_iff.mp sent with ⟨_, rfl, resolved, found, inside⟩
  have whole : joinSegments (readSegments true (withoutIgnored (config.basePath ++ path))) =
      config.basePath ++ resolved := found
  rcases covers_iff.mp inside with rfl | ⟨rest, rfl⟩
  · rw [← List.append_nil (config.basePath ++ config.area)] at whole
    exact isBase_of_eq_append whole (.inr rooted) (.inl rfl)
  · rw [← List.append_assoc] at whole
    exact isBase_of_eq_append whole (.inr rooted) (.inr ⟨rest, rfl⟩)

/-- A gateway sends on requests for its area exactly if a URL takes the area as it is: if no character
of it is encoded, dropped or read as a slash, and no segment of it is a dot segment. Of a gateway with
another area, which is accepted just as well, there is no request that is sent on. -/
theorem area_served_iff {listen : Listen} {area target : String} {config : Config}
    (made : make listen area target = .ok config) :
    ((∃ url, config.destination? config.area none = some url) ↔ IsBase config.area) ∧
      (¬IsBase config.area → ∀ path query, config.destination? path query = none) := by
  have rooted := head?_area made
  refine ⟨⟨fun ⟨url, sent⟩ => isBase_area rooted sent, fun isBase => ?_⟩,
    fun notBase path query => ?_⟩
  · rcases destination?_eq_some_of_isOrdinary (isBase_basePath made) rooted isBase.plain
      (covers_iff.mpr (.inl rfl)) isBase.isOrdinary none with ⟨url, sent, _⟩
    exact ⟨url, sent⟩
  · exact Option.eq_none_iff_forall_ne_some.mpr fun url sent => notBase (isBase_area rooted sent)

def bracedGateway : Config where
  listen := usualListen
  area := "/\x7bid\x7d".toList
  target := {
    scheme := "http".toList
    host := some (.named "localhost".toList)
    port := some 7412
    path := .segments [[]] }

theorem make_bracedGateway :
    make usualListen "/\x7bid\x7d" defaultTarget = .ok bracedGateway := by decide +kernel

theorem area_served_of_braces :
    (∃ url, nodeGateway.destination? nodeGateway.area none = some url) ∧
      ∀ path query, bracedGateway.destination? path query = none := by
  have plain : nodeGateway.area.all (!escapedInPath ·) = true := by decide
  have isBase : IsBase nodeGateway.area := ⟨.inr rfl, by simpa using plain, by decide, by decide⟩
  have notBase : ¬IsBase bracedGateway.area := fun isBase =>
    absurd (isBase.plain '\x7b' (by decide)) (by decide)
  exact ⟨(area_served_iff make_nodeGateway).1.mpr isBase,
    (area_served_iff make_bracedGateway).2 notBase⟩

theorem unserved_area_of_braces :
    make usualListen "/\x7bid\x7d" defaultTarget = .ok bracedGateway ∧
      bracedGateway.covers bracedGateway.area = true ∧
      bracedGateway.destination? bracedGateway.area none = none :=
  ⟨make_bracedGateway, by decide, by decide +kernel⟩

/-! ## The path of the target -/

def baseSegments (config : Config) : List (List Char) :=
  (config.basePath.splitOn '/').tail

theorem joinSegments_tail_splitOn {base : List Char} (rooted : base = [] ∨ base.head? = some '/') :
    joinSegments (base.splitOn '/').tail = base := by
  cases base with
  | nil => rfl
  | cons c rest =>
      obtain rfl : c = '/' := by simpa using rooted
      rw [splitOn_cons_slash, List.tail_cons, joinSegments_splitOn]

theorem writtenSegments_slash (rest : List Char) :
    writtenSegments ('/' :: rest) =
      (piecesAt (isSlash true) (withoutIgnored rest)).map (percentEncode escapedInPath) :=
  rfl

theorem writtenSegments_append {base : List Char} (isBase : IsBase base) (rest : List Char) :
    writtenSegments (base ++ '/' :: rest) =
      (base.splitOn '/').tail ++ writtenSegments ('/' :: rest) := by
  cases base with
  | nil => rfl
  | cons c more =>
      obtain rfl : c = '/' := by simpa using isBase.rooted
      have clean : withoutIgnored more = more := withoutIgnored_eq_self fun c member =>
        isBase.isOrdinary.clean c (List.mem_cons_of_mem _ member)
      have cut : piecesAt (isSlash true) more = more.splitOn '/' := piecesAt_isSlash fun member =>
        isBase.noBackslash (List.mem_cons_of_mem _ member)
      have plain : (more.splitOn '/').map (percentEncode escapedInPath) = more.splitOn '/' := by
        rw [← splitOn_percentEncode (by decide), percentEncode_eq_self fun c member =>
          isBase.plain c (List.mem_cons_of_mem _ member)]
      have pieces : withoutIgnored (more ++ '/' :: rest) = more ++ '/' :: withoutIgnored rest := by
        rw [withoutIgnored_append, clean]
        rfl
      rw [List.cons_append, writtenSegments_slash, pieces, piecesAt_append_cons _ _ (by decide), cut,
        List.map_append, plain, splitOn_cons_slash, List.tail_cons, writtenSegments_slash]

/-- Behind the path of a target, a path that leads up past its root takes segments away from it. -/
theorem settled_append {base : List Char} (isBase : IsBase base) (rest : List Char) :
    settled (base ++ '/' :: rest) =
      joinSegments ((base.splitOn '/').tail.rdrop (climbsOf ('/' :: rest))) ++
        settled ('/' :: rest) := by
  have plain : ∀ segment ∈ (base.splitOn '/').tail, ¬IsDotSegment segment := fun segment member =>
    isBase.noDots segment (List.mem_of_mem_tail member)
  rw [settled, writtenSegments_append isBase, resolve_append plain, joinSegments_append, settled,
    climbsOf]

/-- What a path that is put behind the path of the target leaves of that is all of it exactly if it
starts, read by itself, with the segments that it took away. -/
theorem settled_basePath_iff {config : Config} (isBase : IsBase config.basePath)
    (rest resolved : List Char) :
    settled (config.basePath ++ '/' :: rest) = config.basePath ++ resolved ↔
      settled ('/' :: rest) =
        joinSegments (config.baseSegments.rtake (climbsOf ('/' :: rest))) ++ resolved := by
  have parted : config.basePath =
      joinSegments (config.baseSegments.rdrop (climbsOf ('/' :: rest))) ++
        joinSegments (config.baseSegments.rtake (climbsOf ('/' :: rest))) := by
    rw [← joinSegments_append, List.rdrop, List.rtake, List.take_append_drop]
    exact (joinSegments_tail_splitOn isBase.rooted).symm
  rw [settled_append isBase]
  nth_rewrite 2 [parted]
  rw [List.append_assoc]
  exact List.append_right_inj _

/-! ## Paths that leave the area -/

/-- Whether a path comes down again through the segments of the target that it leads up into: they are
what it starts with when it is read by itself, and the rest lies in the area. -/
def ComesBack (config : Config) (path : List Char) : Prop :=
  ∃ rest, config.covers rest = true ∧
    settled path = joinSegments (config.baseSegments.rtake (climbsOf path)) ++ rest

/-- A path of the area is sent on exactly if it comes back to the area. -/
theorem exists_destination?_iff {listen : Listen} {area target : String} {config : Config}
    (made : make listen area target = .ok config) (path : List Char) (query : Option (List Char)) :
    (∃ url, config.destination? path query = some url) ↔
      config.covers path = true ∧ config.ComesBack path := by
  by_cases covered : config.covers path = true
  case neg => simp [destination?, covered]
  have rooted := head?_of_covers (head?_area made) covered
  cases path with
  | nil => cases rooted
  | cons c rest =>
      obtain rfl : c = '/' := by simpa using rooted
      have kept := settled_basePath_iff (isBase_basePath made) rest
      constructor
      · rintro ⟨url, sent⟩
        rcases destination?_eq_some_iff.mp sent with ⟨_, rfl, resolved, found, inside⟩
        exact ⟨covered, resolved, inside, (kept resolved).mp found⟩
      · rintro ⟨_, resolved, inside, found⟩
        exact ⟨_, destination?_eq_some_iff.mpr ⟨covered, rfl, resolved, (kept resolved).mpr found, inside⟩⟩

/-- A path that leads nowhere above its root, and any path where the target has none, comes back
exactly if it has never left. -/
theorem comesBack_iff_of_stays {config : Config} {path : List Char}
    (stays : config.basePath = [] ∨ climbsOf path = 0) :
    config.ComesBack path ↔ config.covers (settled path) = true := by
  have nothing : config.baseSegments.rtake (climbsOf path) = [] := by
    rcases stays with bare | level
    · rw [baseSegments, bare, List.splitOn_nil, List.tail_cons, List.rtake_nil]
    · rw [level, List.rtake_zero]
  rw [ComesBack, nothing]
  simp [joinSegments]

/-- A path that, read by itself, lies outside of the area is not sent on, unless it lies in the area as
it is written, leads up into the path of the target and comes down again by the same segments. That
cannot happen where the target has no path, nor to a path that does not lead above its root. -/
theorem unsent_of_leaving {listen : Listen} {area target : String} {config : Config}
    (made : make listen area target = .ok config) {path : List Char}
    (leaves : config.covers (settled path) = false) (query : Option (List Char)) :
    (config.destination? path query = none ↔
        ¬(config.covers path = true ∧ config.ComesBack path)) ∧
      (config.basePath = [] ∨ climbsOf path = 0 → config.destination? path query = none) := by
  have unsent : config.destination? path query = none ↔
      ¬(config.covers path = true ∧ config.ComesBack path) := by
    rw [← exists_destination?_iff made path query, Option.eq_none_iff_forall_ne_some, not_exists]
  refine ⟨unsent, fun stays => unsent.mpr fun ⟨_, back⟩ => ?_⟩
  rw [(comesBack_iff_of_stays stays).mp back] at leaves
  cases leaves

theorem unsent_of_leaving_by_dots :
    nodeGateway.covers (settled "/manager/v1/../%2E./node-a/manager".toList) = false ∧
      nodeGateway.destination? "/manager/v1/../%2E./node-a/manager".toList none = none := by
  have leaves : nodeGateway.covers (settled "/manager/v1/../%2E./node-a/manager".toList) = false := by
    decide +kernel
  have level : climbsOf "/manager/v1/../%2E./node-a/manager".toList = 0 := by decide +kernel
  exact ⟨leaves, (unsent_of_leaving make_nodeGateway leaves none).2 (.inr level)⟩

theorem sent_by_roundabout :
    make usualListen "/manager/" "http://u:p@gw:8080/node-a/" = .ok nodeGateway ∧
      nodeGateway.covers (settled "/manager/../../node-a/manager".toList) = false ∧
      nodeGateway.destination? "/manager/../../node-a/manager".toList none =
        some { nodeGateway.target with
          path := .segments ["node-a".toList, "manager".toList], query := none } :=
  ⟨make_nodeGateway, by decide +kernel, by decide +kernel⟩

end NodeConsole.Gateway.Config
