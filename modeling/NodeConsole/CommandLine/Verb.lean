import NodeConsole.CommandLine.Option
/-!
The commands of the program, their names and their options. Commands that have commands below them
cannot be run themselves.
-/

namespace NodeConsole.CommandLine

inductive Verb where
  | main
  | settings
  | get
  | set
  | proxy
deriving DecidableEq, Repr

def programName : String :=
  "crynux-webui"

def version : String :=
  "0.1.0"

def helpName : String :=
  "help"

namespace Verb

def name : Verb → String
  | .main => programName
  | .settings => "settings"
  | .get => "get"
  | .set => "set"
  | .proxy => "proxy"

def children : Verb → List Verb
  | .main => [.settings, .proxy]
  | .settings => [.get, .set]
  | _ => []

def path : Verb → String
  | .main => programName
  | .settings => s!"{programName} settings"
  | .get => s!"{programName} settings get"
  | .set => s!"{programName} settings set"
  | .proxy => s!"{programName} proxy"

def about : Verb → String
  | .main => "Settings and development tooling for the node manager web UI"
  | .settings => "Read or replace node settings"
  | .get => "Fetch the current settings"
  | .set => "Send a new settings document"
  | .proxy => "Run the development proxy"

def own : Verb → List Opt
  | .set => [.file, .assign]
  | .proxy => [.listen, .target, .area]
  | _ => []

def options (verb : Verb) : List Opt :=
  verb.own ++ Opt.globals

def option? (verb : Verb) (name : String) : Option Opt :=
  verb.options.find? (·.isNamed name)

def child? (verb : Verb) (name : String) : Option Verb :=
  verb.children.find? (·.name = name)

def isGroup (verb : Verb) : Bool :=
  !verb.children.isEmpty

def childNames (verb : Verb) : List String :=
  verb.children.map name ++ [helpName]

def isChildName (verb : Verb) (name : String) : Bool :=
  verb.isGroup && verb.childNames.contains name

end Verb

end NodeConsole.CommandLine
