import NodeConsole.Http.Fault
import NodeConsole.Json.Message
import NodeConsole.Url.Error
/-!
Why a call for settings has no result.
-/

namespace NodeConsole.Settings

inductive CallError where
  | badUrl (url : String) (reason : Url.Error)
  | unanswered (reason : Http.Fault)
  | refused (status : Nat) (body : String)
  | undecodable (reason : Json.Error)
deriving DecidableEq, Repr

namespace CallError

def message : CallError → String
  | .badUrl url _ => s!"invalid request URL '{url}'"
  | .unanswered _ => "request failed"
  | .refused status _ => s!"server responded with status {status}"
  | .undecodable _ => "response body is not valid JSON"

def chain (error : CallError) : List String :=
  error.message ::
    match error with
    | .badUrl _ reason => [reason.message]
    | .unanswered reason => reason.chain
    | .refused _ _ => []
    | .undecodable reason => [reason.message]

def status? : CallError → Option Nat
  | .refused status _ => some status
  | _ => none

end CallError

end NodeConsole.Settings
