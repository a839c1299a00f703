import NodeConsole.Gateway.Listen
import NodeConsole.Url.Edit
/-!
What a gateway forwards and where to. Requests whose path lies in the gateway's area are sent on to
the target, with their path appended to that of the target; a path that leaves the area once its dot
segments are worked out is not sent on.
-/

namespace NodeConsole.Gateway

/-! ## Defaults -/

def defaultArea : String :=
  "/manager"

def defaultTarget : String :=
  "http://localhost:7412"

def defaultListen : String :=
  "0.0.0.0:3000"

def usualListen : Listen :=
  .four 0 3000

example : usualListen.text = defaultListen := by decide +kernel

def targetVariable : String :=
  "CRYNUX_API_BASE_URL"

/-! ## Configurations -/

/-- What a gateway forwards and where to. The area starts with a slash and does not end in one. -/
structure Config where
  listen : Listen
  area : List Char
  target : Url
deriving DecidableEq, Repr

inductive Config.Error where
  | badTarget (target : String)
  | badArea (area : String)
deriving DecidableEq, Repr

def Config.Error.message : Config.Error → String
  | .badTarget target => s!"invalid proxy target '{target}'"
  | .badArea area => s!"invalid proxy prefix '{area}'"

def withoutEndSlashes (s : List Char) : List Char :=
  (s.reverse.dropWhile (· == '/')).reverse

namespace Config

def readArea (text : String) : Except Error (List Char) :=
  let area := withoutEndSlashes text.toList
  if text.toList.head? = some '/' ∧ area ≠ [] then .ok area else .error (.badArea text)

def readTarget (text : String) : Except Error Url :=
  match Url.parse text with
  | .error _ => .error (.badTarget text)
  | .ok url => if url.isHttp && url.host.isSome then .ok url else .error (.badTarget text)

def make (listen : Listen) (area target : String) : Except Error Config := do
  let area ← readArea area
  let target ← readTarget target
  .ok ⟨listen, area, target⟩

theorem readTarget_eq_ok {text : String} {url : Url} (read : readTarget text = .ok url) :
    Url.parse text = .ok url ∧ url.isHttp = true ∧ url.host.isSome = true := by
  rw [readTarget] at read
  split at read
  · cases read
  · next parsed =>
    split at read
    · next good =>
      cases read
      exact ⟨parsed, Bool.and_eq_true_iff.mp good⟩
    · cases read

theorem make_target {listen : Listen} {area target : String} {config : Config}
    (made : make listen area target = .ok config) :
    Url.parse target = .ok config.target ∧ config.target.isHttp = true ∧
      config.target.host.isSome = true := by
  rw [make] at made
  cases areaRead : readArea area with
  | error fault =>
      rw [areaRead] at made
      cases made
  | ok area =>
      cases targetRead : readTarget target with
      | error fault =>
          rw [areaRead, targetRead] at made
          cases made
      | ok url =>
          rw [areaRead, targetRead] at made
          cases made
          exact readTarget_eq_ok targetRead

/-! ## Paths -/

def afterStart? : List Char → List Char → Option (List Char)
  | [], s => some s
  | _ :: _, [] => none
  | expected :: more, c :: rest => if c = expected then afterStart? more rest else none

theorem afterStart?_eq_some_iff {start text rest : List Char} :
    afterStart? start text = some rest ↔ text = start ++ rest := by
  induction start generalizing text with
  | nil => simp [afterStart?]
  | cons expected more induction =>
      cases text with
      | nil => simp [afterStart?]
      | cons c following =>
          by_cases same : c = expected
          · simp [afterStart?, same, induction]
          · simp [afterStart?, same]

def covers (config : Config) (path : List Char) : Bool :=
  match afterStart? config.area path with
  | none => false
  | some [] => true
  | some (c :: _) => c == '/'

theorem covers_iff {config : Config} {path : List Char} :
    config.covers path = true ↔ path = config.area ∨ ∃ rest, path = config.area ++ '/' :: rest := by
  rw [covers]
  cases found : afterStart? config.area path with
  | none =>
      have unequal : ∀ rest, path ≠ config.area ++ rest := fun rest equal => by
        simp [afterStart?_eq_some_iff.mpr equal] at found
      simpa using ⟨by simpa using unequal [], fun rest => unequal ('/' :: rest)⟩
  | some rest =>
      cases rest with
      | nil => simp [afterStart?_eq_some_iff.mp found]
      | cons c rest => simp [afterStart?_eq_some_iff.mp found]

def basePath (config : Config) : List Char :=
  withoutEndSlashes config.target.path.chars

def destination? (config : Config) (path : List Char) (query : Option (List Char)) : Option Url :=
  if config.covers path then
    let url := (config.target.withPath (config.basePath ++ path)).withQuery query
    match afterStart? config.basePath url.path.chars with
    | some resolved => if config.covers resolved then some url else none
    | none => none
  else none

end Config

end NodeConsole.Gateway
