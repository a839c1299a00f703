import NodeConsole.Console.Failure
import NodeConsole.Settings.CallError
import NodeConsole.Text.Blank
/-!
What a failed call means for the command that made it. Some statuses say that the server rejects the
document; everything else is a failure of operation.
-/

namespace NodeConsole.Console

def rejectsDocument (status : Nat) : Bool :=
  status == 400 || status == 409 || status == 422

def Failure.ofCallError (action : String) (error : Settings.CallError) : Failure :=
  match error with
  | .refused status body =>
    if rejectsDocument status then
      let detail := Text.trim body
      if detail.isEmpty then .rejected s!"{action} rejected (status {status})"
      else .rejected s!"{action} rejected (status {status}): {detail}"
    else .failed (s!"{action} failed" :: error.chain)
  | _ => .failed (s!"{action} failed" :: error.chain)

end NodeConsole.Console
