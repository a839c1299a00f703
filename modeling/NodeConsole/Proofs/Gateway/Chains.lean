import NodeConsole.Proofs.Gateway.Areas
/-!
Gateways one behind another. What a gateway has sent on is in its final form: a gateway for the same area
that receives it, be it another one or the first one again, puts path and query behind its own target as
they are.
-/

namespace NodeConsole.Url

/-! ## Queries -/

theorem encodeQuery_encodeQuery {scheme other : List Char} (special : isSpecial scheme = true)
    (otherSpecial : isSpecial other = true) (asked : List Char) :
    encodeQuery other (withoutIgnored (encodeQuery scheme asked)) = encodeQuery scheme asked := by
  have plain : ∀ c ∈ encodeQuery scheme asked, escapedInSpecialQuery c = false :=
    fun c member => escapedInSpecialQuery_of_mem special member
  have clean : withoutIgnored (encodeQuery scheme asked) = encodeQuery scheme asked :=
    withoutIgnored_eq_self fun c member => isIgnored_of_apart (plain c member) (by decide)
  rw [clean, encodeQuery, if_pos otherSpecial]
  exact percentEncode_eq_self plain

/-- A query that was put into a URL of the web goes through any such URL as it is. -/
theorem query_withQuery_query {url next : Url} (special : isSpecial url.scheme = true)
    (nextSpecial : isSpecial next.scheme = true) (query : Option (List Char)) :
    (next.withQuery (url.withQuery query).query).query = (url.withQuery query).query := by
  cases query with
  | none => rfl
  | some asked =>
      exact congrArg some (encodeQuery_encodeQuery special nextSpecial (withoutIgnored asked))

theorem withQuery_eq_of_query_eq {url : Url} {left right : Option (List Char)}
    (same : (url.withQuery left).query = (url.withQuery right).query) :
    url.withQuery left = url.withQuery right :=
  congrArg (fun told => { url with query := told }) same

/-! ## Paths -/

theorem withPath_eq_of_chars_eq {url : Url} {left right : List Char}
    (same : (url.withPath left).path.chars = (url.withPath right).path.chars) :
    url.withPath left = url.withPath right := by
  have cut := congrArg (·.splitOn '/') same
  simp only [withPath, Path.chars, splitOn_joinSegments_readSegments] at cut
  rw [withPath, withPath, (List.cons.inj cut).2]

end NodeConsole.Url

namespace NodeConsole.Gateway.Config

open NodeConsole.Url

/-! ## What was sent on -/

theorem covers_of_area_eq {config next : Config} (sameArea : next.area = config.area)
    (path : List Char) : next.covers path = config.covers path := by
  rw [covers, covers, sameArea]

/-- What a gateway sends on, less the path of its target, lies in its area and is in the form in which
it stands in a URL. -/
theorem isBase_of_sent {config : Config} (rooted : config.area.head? = some '/')
    {path rest : List Char} {query : Option (List Char)} {url : Url}
    (sent : config.destination? path query = some url)
    (found : url.path.chars = config.basePath ++ rest) :
    config.covers rest = true ∧ IsBase rest := by
  rcases destination?_eq_some_iff.mp sent with ⟨_, same, resolved, foundToo, inside⟩
  rw [List.append_cancel_left (found.symm.trans foundToo)]
  refine ⟨inside, ?_⟩
  have whole : joinSegments (readSegments true (withoutIgnored (config.basePath ++ path))) =
      config.basePath ++ resolved ++ [] := by
    rw [same] at foundToo
    rw [List.append_nil]
    exact foundToo
  exact isBase_of_eq_append whole (.inr (head?_of_covers rooted inside)) (.inl rfl)

/-- Where a gateway for the same area sends what was sent on. -/
theorem destination?_of_sent {config next : Config} {listen : Listen} {area target : String}
    (made : make listen area target = .ok next) (rooted : config.area.head? = some '/')
    (sameArea : next.area = config.area) {path rest : List Char} {query : Option (List Char)}
    {url : Url} (sent : config.destination? path query = some url)
    (found : url.path.chars = config.basePath ++ rest) :
    ∃ onward, next.destination? rest url.query = some onward ∧
      onward = (next.target.withPath (next.basePath ++ rest)).withQuery url.query ∧
      onward.path.chars = next.basePath ++ rest := by
  rcases isBase_of_sent rooted sent found with ⟨inside, isBase⟩
  have plainArea : ∀ c ∈ next.area, escapedInPath c = false := by
    rw [sameArea]
    exact (isBase_area rooted sent).plain
  have covered : next.covers rest = true := (covers_of_area_eq sameArea rest).trans inside
  rcases destination?_eq_some_of_isOrdinary (isBase_basePath made) (head?_area made) plainArea
    covered isBase.isOrdinary url.query with ⟨onward, onwardSent, same, encoded⟩
  refine ⟨onward, onwardSent, same, ?_⟩
  rw [encoded, percentEncode_append, percentEncode_eq_self (isBase_basePath made).plain,
    percentEncode_eq_self isBase.plain]

/-- What a gateway sends on is in its final form. Its path, less that of the target, and its query go
through the gateway once more without any change; and any gateway for the same area puts them behind
its own target just as they are. -/
theorem destination_settles {listen : Listen} {area target : String} {config : Config}
    (made : make listen area target = .ok config) {path : List Char} {query : Option (List Char)}
    {url : Url} (sent : config.destination? path query = some url) :
    ∃ rest, url.path.chars = config.basePath ++ rest ∧
      config.destination? rest url.query = some url ∧
      ∀ nextListen nextArea nextTarget next, make nextListen nextArea nextTarget = .ok next →
        next.area = config.area →
        ∃ onward, next.destination? rest url.query = some onward ∧
          onward.path.chars = next.basePath ++ rest ∧ onward.query = url.query := by
  have rooted := head?_area made
  have special := isSpecial_of_isHttp (make_target made).2.1
  rcases destination?_eq_some_iff.mp sent with ⟨_, same, rest, found, _⟩
  refine ⟨rest, found, ?_, ?_⟩
  · rcases destination?_of_sent made rooted rfl sent found with ⟨again, sentAgain, sameAgain, whole⟩
    have samePath : config.target.withPath (config.basePath ++ rest) =
        config.target.withPath (config.basePath ++ path) := by
      apply withPath_eq_of_chars_eq
      rw [sameAgain] at whole
      rw [same] at found
      exact whole.trans found.symm
    rw [sentAgain, sameAgain, samePath, same]
    apply congrArg some
    apply withQuery_eq_of_query_eq
    exact query_withQuery_query special special query
  · intro nextListen nextArea nextTarget next nextMade sameArea
    rcases destination?_of_sent nextMade rooted sameArea sent found with
      ⟨onward, onwardSent, sameOnward, whole⟩
    refine ⟨onward, onwardSent, whole, ?_⟩
    have nextSpecial := isSpecial_of_isHttp (make_target nextMade).2.1
    rw [sameOnward, same]
    exact query_withQuery_query special nextSpecial query

theorem destination_settles_of_marks :
    ∃ url, nodeGateway.destination? "/manager/v1\\x/%2E./y z/.".toList (some "a'b\tc".toList) = some url ∧
      nodeGateway.destination? "/manager/v1/y%20z/".toList (some "a%27bc".toList) = some url := by
  have sent : nodeGateway.destination? "/manager/v1\\x/%2E./y z/.".toList (some "a'b\tc".toList) =
      some { nodeGateway.target with
        path := .segments ["node-a".toList, "manager".toList, "v1".toList, "y%20z".toList, []]
        query := some "a%27bc".toList } := by decide +kernel
  rcases destination_settles make_nodeGateway sent with ⟨rest, found, again, _⟩
  have path : nodeGateway.basePath ++ "/manager/v1/y%20z/".toList = nodeGateway.basePath ++ rest := by
    rw [← found]
    decide +kernel
  rw [← List.append_cancel_left path] at again
  exact ⟨_, sent, again⟩

end NodeConsole.Gateway.Config
