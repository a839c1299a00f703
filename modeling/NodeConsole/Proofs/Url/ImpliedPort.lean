import NodeConsole.Proofs.Results
import NodeConsole.Url.Parser
/-!
Ports of URLs that were read. A port that the scheme implies is never told: it is dropped where it is
read, and no later step of reading brings one back.
-/

namespace NodeConsole.Url

def Tells (scheme : List Char) (port : Option Nat) : Prop :=
  ∀ told, port = some told → impliedPort? scheme ≠ some told

theorem tells_none (scheme : List Char) : Tells scheme none := by
  intro told present
  cases present

/-! ## Authorities -/

theorem readPort_tells {scheme text rest : List Char} {port : Option Nat}
    (read : readPort scheme text = .ok (port, rest)) : Tells scheme port := by
  rw [readPort] at read
  split at read
  · cases read
  · next number _ =>
    split at read
    · cases read
    · split at read
      · cases read
        exact tells_none scheme
      · next kept =>
        cases read
        intro told same implied
        cases same
        simp [implied] at kept

theorem readHost_tells {scheme text rest : List Char} {host : Host} {port : Option Nat}
    (read : readHost scheme text = .ok (host, port, rest)) : Tells scheme port := by
  rw [readHost] at read
  dsimp only at read
  split at read
  · cases read
  · split at read
    -- Both kinds of hosts are followed by a port alike.
    all_goals
      rcases bind_eq_ok read with ⟨read, _, behind⟩
      split at behind
      · cases behind
        exact tells_none scheme
      · split at behind
        · cases behind
        · rcases bind_eq_ok behind with ⟨⟨told, after⟩, portRead, same⟩
          cases same
          exact readPort_tells portRead

theorem readAuthority_tells {scheme text : List Char} {authority : Authority}
    (read : readAuthority scheme text = .ok authority) : Tells scheme authority.port := by
  rw [readAuthority] at read
  dsimp only at read
  split at read
  · rcases bind_eq_ok read with ⟨⟨host, port, rest⟩, hostRead, same⟩
    cases same
    exact readHost_tells hostRead
  · split at read
    · cases read
    · rcases bind_eq_ok read with ⟨⟨host, port, rest⟩, hostRead, same⟩
      dsimp only at same
      split at same
      · cases same
      · cases same
        exact readHost_tells hostRead

/-! ## URLs -/

theorem withTail_tells {url : Url} (tells : Tells url.scheme url.port) (text : List Char) :
    Tells (withTail url text).scheme (withTail url text).port := by
  rw [withTail_scheme, (withTail_authority url text).2.2.2]
  exact tells

theorem readAfterAuthority_tells {scheme : List Char} {authority : Authority}
    (tells : Tells scheme authority.port) :
    Tells (readAfterAuthority scheme authority).scheme (readAfterAuthority scheme authority).port :=
  withTail_tells tells _

theorem ofPath_tells {scheme text : List Char} {host : Host} {url : Url}
    (read : readFile.ofPath scheme host text = .ok url) : Tells url.scheme url.port := by
  rw [readFile.ofPath] at read
  cases read
  exact withTail_tells (tells_none _) _

theorem readFile_tells {scheme text : List Char} {url : Url}
    (read : readFile scheme text = .ok url) : Tells url.scheme url.port := by
  rw [readFile.eq_def] at read
  split at read
  · dsimp only at read
    split at read
    · split at read
      · exact ofPath_tells read
      · rcases bind_eq_ok read with ⟨host, _, placed⟩
        split at placed
        · exact ofPath_tells placed
        · exact ofPath_tells placed
    · exact ofPath_tells read
  · exact ofPath_tells read

theorem map_readAuthority_tells {scheme text : List Char} {url : Url}
    (read : (readAuthority scheme text).map (readAfterAuthority scheme) = .ok url) :
    Tells url.scheme url.port := by
  rcases of_map_eq_ok read with ⟨authority, authorityRead, rfl⟩
  exact readAfterAuthority_tells (readAuthority_tells authorityRead)

theorem readOther_tells {scheme text : List Char} {url : Url}
    (read : readOther scheme text = .ok url) : Tells url.scheme url.port := by
  rw [readOther.eq_def] at read
  split at read
  · exact map_readAuthority_tells read
  · cases read
    exact withTail_tells (tells_none _) _
  · cases read
    exact withTail_tells (tells_none _) _

theorem ofChars_tells {text : List Char} {url : Url} (read : ofChars text = .ok url) :
    Tells url.scheme url.port := by
  rw [ofChars] at read
  split at read
  · cases read
  · split at read
    · exact readFile_tells read
    · split at read
      · exact map_readAuthority_tells read
      · exact readOther_tells read

end NodeConsole.Url
