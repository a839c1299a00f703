import NodeConsole.CommandLine.Invocation
import NodeConsole.Console.Classify
import NodeConsole.Console.Launch
import NodeConsole.Console.Trace
/-!
What commands do. A settings command first needs a configuration, then the document that it is to
send, and only then asks the server; it prints something only where all of that went well.
-/

namespace NodeConsole.Console

open NodeConsole.CommandLine (Action Answers)

structure Surroundings where
  environment : CommandLine.Environment := {}
  files : Files := []
  canBind : Gateway.Listen → Bool := fun _ => false
  proxy : String := "127.0.0.1:9"
  runId : String

structure Printed where
  text : String := ""
  breaksOff : Bool := false
deriving DecidableEq, Repr

structure Outcome (σ : Type := Http.Network) where
  result : Except Failure Printed
  records : List Logging.Record := []
  network : σ
  gateway : Option Gateway.Config := none

variable {σ : Type}

/-! ## Settings -/

def actionName : Settings.Order → String
  | .fetch => "settings fetch"
  | .update _ => "settings update"

def headline : Settings.Order → Layout → String
  | .update _, .table => "Settings updated.\n"
  | _, _ => ""

def printed (order : Settings.Order) (layout : Layout) (document : Json) : Printed :=
  match report document layout with
  | some text => { text := headline order layout ++ text ++ "\n" }
  | none => { text := headline order layout, breaksOff := true }

def carryOut [Http.Carrier σ] (surroundings : Surroundings) (config : Settings.Config)
    (layout : Layout) (order : Settings.Order) (network : σ) : Outcome σ :=
  let endpoint : Settings.Endpoint := ⟨config.baseUrl, some surroundings.runId⟩
  let (result, network) := endpoint.transport.perform order network
  { result :=
      match result with
      | .error error => .error (.ofCallError (actionName order) error)
      | .ok document => .ok (printed order layout document)
    records := Trace.resolved config :: Trace.ofOrder surroundings.proxy endpoint order result
    network }

def runSettings [Http.Carrier σ] (surroundings : Surroundings) (globals : Answers)
    (order : Except Failure Settings.Order) (network : σ) : Outcome σ :=
  match resolveConfig surroundings.files (globals.value? .config) (globals.value? .baseUrl)
      (globals.value? .timeout) with
  | .error failure => { result := .error failure, network }
  | .ok config =>
    match order with
    | .error failure => { result := .error failure, records := [Trace.resolved config], network }
    | .ok order =>
      carryOut surroundings config ((globals.value? .output).getD .table) order network

/-! ## Gateways -/

/-- A command that starts a gateway. The journal is told when the configuration is good, before
there is an address to listen on. -/
def runGateway (surroundings : Surroundings) (build : String) (listen : Gateway.Listen)
    (target area : String) (network : σ) : Outcome σ :=
  let records :=
    match Gateway.Config.make listen area target with
    | .ok _ => [Trace.starting build]
    | .error _ => []
  match launch surroundings.canBind listen area target with
  | .error failure => { result := .error failure, records, network }
  | .ok config => { result := .ok {}, records, network, gateway := some config }

/-! ## Commands -/

def perform [Http.Carrier σ] (surroundings : Surroundings) (build : String) (globals : Answers)
    (network : σ) : Action → Outcome σ
  | .get => runSettings surroundings globals (.ok .fetch) network
  | .set source =>
    runSettings surroundings globals ((source.document surroundings.files).map .update) network
  | .proxy listen target area =>
    runGateway surroundings build listen target.value area network

end NodeConsole.Console
