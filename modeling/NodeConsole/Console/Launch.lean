import NodeConsole.Console.Failure
import NodeConsole.Gateway.Start
/-!
Launching a gateway from a command.
-/

namespace NodeConsole.Console

def Failure.ofStartError : Gateway.StartError → Failure
  | .badConfig error => .rejected error.message
  | .notBound => .failed Gateway.StartError.notBound.chain

def launch (canBind : Gateway.Listen → Bool) (listen : Gateway.Listen) (area target : String) :
    Except Failure Gateway.Config :=
  (Gateway.start canBind listen area target).mapError .ofStartError

end NodeConsole.Console
