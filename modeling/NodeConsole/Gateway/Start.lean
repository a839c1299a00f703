import NodeConsole.Gateway.Config
/-!
Starting a gateway: it needs a configuration and the address that it is to listen on.
-/

namespace NodeConsole.Gateway

inductive StartError where
  | badConfig (error : Config.Error)
  | notBound
deriving DecidableEq, Repr

def StartError.chain : StartError → List String
  | .badConfig error => [error.message]
  | .notBound => ["failed to bind proxy listener", "Cannot assign requested address (os error 99)"]

def start (canBind : Listen → Bool) (listen : Listen) (area target : String) :
    Except StartError Config :=
  match Config.make listen area target with
  | .error error => .error (.badConfig error)
  | .ok config => if canBind listen then .ok config else .error .notBound

end NodeConsole.Gateway
