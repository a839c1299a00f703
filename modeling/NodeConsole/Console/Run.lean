import NodeConsole.Console.Command
/-!
A run of the program, from its command line to its exit code.
-/

namespace NodeConsole.Console

open NodeConsole.CommandLine (Action Invocation Stop)
open NodeConsole.Logging (Journal)

structure Run (σ : Type := Http.Network) where
  exitCode : Nat
  output : String := ""
  complaints : String := ""
  log : List Logging.Line := []
  network : σ
  journal : Journal
  gateway : Option Gateway.Config := none

def usualLevel : Action → String
  | .proxy .. => Logging.defaultLevel
  | _ => "warn"

def setupOf (invocation : Invocation) : Logging.Setup where
  level := (invocation.globals.value? .logLevel).getD (usualLevel invocation.action)
  format := (invocation.globals.value? .logFormat).getD .usual
  build := CommandLine.version

def linesText (lines : List String) : String :=
  String.join (lines.map fun line => line ++ "\n")

def lineText : Logging.Line → String
  | .text line => line
  | .document object => object.compact

/-- What a run writes to its standard output: the journal goes there too, before what is printed. -/
def Run.standardOutput {σ : Type} (run : Run σ) : String :=
  linesText (run.log.map lineText) ++ run.output

def journalComplaints (setting : Option String) (setup : Logging.Setup) (installed : Bool) :
    String :=
  linesText <|
    (Logging.filterFor setting setup.level).2.map Logging.leftOutText ++
      if installed then [] else [s!"warning: {Journal.installedAlready}"]

def breakdownCode : Nat :=
  101

def breakdownText : String :=
  "Formatting argument out of range\n"

variable {σ : Type} [Http.Carrier σ]

def execute (surroundings : Surroundings) (journal : Journal) (network : σ)
    (invocation : Invocation) : Run σ :=
  let setting := surroundings.environment.get? Logging.filterVariable
  let setup := setupOf invocation
  let (installed, journal) := journal.install setting setup
  let outcome :=
    perform surroundings journal.build invocation.globals network invocation.action
  let said := journalComplaints setting setup installed
  match outcome.result with
  | .ok printed =>
    { exitCode := if printed.breaksOff then breakdownCode else 0
      output := printed.text
      complaints := if printed.breaksOff then said ++ breakdownText else said
      log := journal.writeAll outcome.records
      network := outcome.network
      journal
      gateway := outcome.gateway }
  | .error failure =>
    { exitCode := failure.exitCode
      complaints := said ++ s!"error: {failure.message}\n"
      log := journal.writeAll
        (outcome.records ++ [Trace.failed surroundings.runId failure.message])
      network := outcome.network
      journal }

def halt (surroundings : Surroundings) (journal : Journal) (network : Http.Network)
    (stop : Stop) : Run :=
  let text := stop.text surroundings.environment
  if stop.isAnswer then { exitCode := stop.exitCode, output := text, network, journal }
  else { exitCode := stop.exitCode, complaints := text, network, journal }

def run (surroundings : Surroundings) (journal : Journal) (network : Http.Network)
    (words : List String) : Run :=
  match CommandLine.parse surroundings.environment words with
  | .ok invocation => execute surroundings journal network invocation
  | .error stop => halt surroundings journal network stop

end NodeConsole.Console
