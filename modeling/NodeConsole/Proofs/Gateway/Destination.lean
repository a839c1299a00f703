import Mathlib.Control.Monad.Basic
import NodeConsole.Gateway.Config
import NodeConsole.Proofs.Url.PathSegments
/-!
Where a gateway sends requests. A destination differs from the target in its path and its query only;
its path lies below the path of the target in the area of the gateway, and no dot segment in it can
lead out of there again.
-/

namespace NodeConsole.Gateway.Config

open NodeConsole.Url (IsDotSegment)

/-- The destinations of a gateway: the path has to lie in the area before and after dot segments are
worked out. -/
theorem destination?_eq_some_iff {config : Config} {path : List Char} {query : Option (List Char)}
    {url : Url} :
    config.destination? path query = some url ↔
      config.covers path = true ∧
        url = (config.target.withPath (config.basePath ++ path)).withQuery query ∧
        ∃ resolved, url.path.chars = config.basePath ++ resolved ∧ config.covers resolved = true := by
  rw [destination?]
  split
  · next covered =>
    dsimp only
    split
    · next resolved found =>
      rw [afterStart?_eq_some_iff] at found
      constructor
      · intro sent
        split at sent
        · next inside =>
          cases sent
          exact ⟨covered, rfl, resolved, found, inside⟩
        · cases sent
      · rintro ⟨_, rfl, other, path, inside⟩
        rw [List.append_cancel_left (path.symm.trans found)] at inside
        rw [if_pos inside]
    · next missing =>
      constructor
      · intro sent
        cases sent
      · rintro ⟨_, rfl, resolved, path, _⟩
        rw [afterStart?_eq_some_iff.mpr path] at missing
        cases missing
  · next uncovered =>
    simp [uncovered]

theorem destination?_parts {config : Config} {path : List Char} {query : Option (List Char)}
    {url : Url} (sent : config.destination? path query = some url) :
    ∃ place asked, url = { config.target with path := place, query := asked } := by
  rcases destination?_eq_some_iff.mp sent with ⟨_, rfl, _⟩
  exact ⟨_, _, rfl⟩

/-- Requests do not leave the area of a gateway at its target. Whatever path is asked for, what is
sent on keeps the authority of the target, stays below its path in the area, and holds no dot segment
that could be worked out to something else at the other end. -/
theorem destination_confined {config : Config} {path : List Char} {query : Option (List Char)}
    {url : Url} (sent : config.destination? path query = some url) :
    url.scheme = config.target.scheme ∧ url.username = config.target.username ∧
      url.password = config.target.password ∧ url.host = config.target.host ∧
      url.port = config.target.port ∧
      (∃ below, url.path.chars = config.basePath ++ config.area ++ below ∧
        (below = [] ∨ ∃ rest, below = '/' :: rest)) ∧
      ∀ segment ∈ url.path.chars.splitOn '/', ¬IsDotSegment segment := by
  rcases destination?_eq_some_iff.mp sent with ⟨_, rfl, resolved, found, inside⟩
  refine ⟨rfl, rfl, rfl, rfl, rfl, ?_, fun segment member => ?_⟩
  · rw [found]
    rcases covers_iff.mp inside with rfl | ⟨rest, rfl⟩
    · exact ⟨[], by simp, .inl rfl⟩
    · exact ⟨'/' :: rest, by simp, .inr ⟨rest, rfl⟩⟩
  · have placed : segment ∈
        (config.target.withPath (config.basePath ++ path)).path.chars.splitOn '/' := member
    exact Url.not_isDotSegment_of_mem_withPath placed

def nodeGateway : Config where
  listen := usualListen
  area := "/manager".toList
  target := {
    scheme := "http".toList
    username := "u".toList
    password := some "p".toList
    host := some (.named "gw".toList)
    port := some 8080
    path := .segments ["node-a".toList, []] }

theorem make_nodeGateway :
    make usualListen "/manager/" "http://u:p@gw:8080/node-a/" = .ok nodeGateway := by decide +kernel

theorem destination_confined_of_encoded_dots :
    ∃ url, nodeGateway.destination? "/manager/v1\\x/%2E./y/.".toList (some "a b".toList) = some url ∧
      url.host = some (.named "gw".toList) ∧
      ∀ segment ∈ url.path.chars.splitOn '/', ¬IsDotSegment segment := by
  have sent : nodeGateway.destination? "/manager/v1\\x/%2E./y/.".toList (some "a b".toList) =
      some { nodeGateway.target with
        path := .segments ["node-a".toList, "manager".toList, "v1".toList, "y".toList, []]
        query := some "a%20b".toList } := by decide +kernel
  have confined := destination_confined sent
  exact ⟨_, sent, confined.2.2.2.1, confined.2.2.2.2.2.2⟩

end NodeConsole.Gateway.Config
