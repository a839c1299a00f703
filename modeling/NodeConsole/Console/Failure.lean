import NodeConsole.Settings.Config
/-!
How a command fails: its input is rejected, or it could not be carried out. The two have different
exit codes.
-/

namespace NodeConsole.Console

inductive Failure where
  | rejected (message : String)
  | failed (chain : List String)
deriving DecidableEq, Repr

def chainText (chain : List String) : String :=
  ": ".intercalate chain

namespace Failure

def message : Failure → String
  | .rejected message => message
  | .failed chain => chainText chain

def exitCode : Failure → Nat
  | .rejected _ => 2
  | .failed _ => 3

def ofConfigError (error : Settings.Config.Error) : Failure :=
  .rejected (chainText error.chain)

end Failure

def resolveConfig (files : Files) (path baseUrl : Option String) (timeout : Option UInt64) :
    Except Failure Settings.Config :=
  (Settings.Config.resolve files path baseUrl timeout).mapError .ofConfigError

end NodeConsole.Console
