import NodeConsole.Files
import NodeConsole.Json.Message
import NodeConsole.Json.Record
import NodeConsole.Url.Parser
/-!
Where the settings of a node are found: the base URL of its interface, and how long to wait for an
answer. A configuration is read from a JSON document; its base URL is kept as it was written, and has
to be an absolute URL.
-/

namespace NodeConsole.Settings

def defaultBaseUrl : String :=
  "http://localhost:7412/manager/v1"

def defaultTimeout : UInt64 :=
  10

structure Config where
  baseUrl : String := defaultBaseUrl
  timeout : UInt64 := defaultTimeout
deriving DecidableEq, Repr, Inhabited

inductive Config.Error where
  | unreadable (path : String) (reason : Files.Error)
  | malformed (reason : Json.Error)
  | badBaseUrl (value : String) (reason : Url.Error)
deriving DecidableEq, Repr

namespace Config

def Error.message : Error → String
  | .unreadable path _ => s!"failed to read configuration file '{path}'"
  | .malformed _ => "configuration is not valid JSON"
  | .badBaseUrl value _ => s!"invalid base_url '{value}'"

def Error.chain (error : Error) : List String :=
  [error.message,
    match error with
    | .unreadable _ reason => reason.message
    | .malformed reason => reason.message
    | .badBaseUrl _ reason => reason.message]

/-! ## JSON form -/

def shape : Json.Shape Config where
  name := "WebUiConfig"
  initial := {}
  fields :=
    [⟨"base_url", Json.stringSlot, fun value record => { record with baseUrl := value }⟩,
     ⟨"timeout_secs", Json.natural64Slot, fun value record => { record with timeout := value }⟩]

def toText (config : Config) : String :=
  Json.compact (.object
    [("base_url", .string config.baseUrl),
     ("timeout_secs", .number (.integer config.timeout.toNat))])

/-! ## Reading -/

def parsedBaseUrl (config : Config) : Except Error Url :=
  (Url.parse config.baseUrl).mapError (.badBaseUrl config.baseUrl)

def validated (config : Config) : Except Error Config :=
  match config.parsedBaseUrl with
  | .error error => .error error
  | .ok _ => .ok config

def withBaseUrl (baseUrl : String) : Except Error Config :=
  validated { baseUrl := baseUrl }

def ofText (text : String) : Except Error Config :=
  match shape.ofText text with
  | .error reason => .error (.malformed reason)
  | .ok config => config.validated

def ofFile (files : Files) (path : String) : Except Error Config :=
  match files.readText path with
  | .error reason => .error (.unreadable path reason)
  | .ok text => ofText text

/-! ## Choosing -/

/-- The configuration that a file and two overriding values amount to. An error of the file comes
first, even where both of its values are overridden. -/
def resolve (files : Files) (path baseUrl : Option String) (timeout : Option UInt64) :
    Except Error Config := do
  let config ← match path with
    | some path => ofFile files path
    | none => .ok {}
  let chosen ← match baseUrl with
    | some baseUrl => (withBaseUrl baseUrl).map Config.baseUrl
    | none => .ok config.baseUrl
  .ok ⟨chosen, timeout.getD config.timeout⟩

theorem resolve_eq (files : Files) (path baseUrl : Option String) (timeout : Option UInt64) :
    resolve files path baseUrl timeout =
      path.elim (.ok {}) (ofFile files) >>= fun config =>
        baseUrl.elim (.ok config.baseUrl) (fun text => (withBaseUrl text).map Config.baseUrl) >>=
          fun chosen => .ok ⟨chosen, timeout.getD config.timeout⟩ := by
  cases path <;> cases baseUrl <;> rfl

example : (ofText "[\"x:y\"]").toOption = some ⟨"x:y", 10⟩ := by decide +kernel

end Config

end NodeConsole.Settings
