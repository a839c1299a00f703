import NodeConsole.CommandLine.Fault
/-!
The texts that tell about commands.
-/

namespace NodeConsole.CommandLine

inductive Topic where
  | ofVerb (verb : Verb)
  | ofHelp (verb : Verb)
deriving DecidableEq, Repr

def helpAbout : String :=
  "Print this message or the help of the given subcommand(s)"

/-! ## Columns -/

def columns (width : Nat) (left right : String) : String :=
  String.ofList (left.toList ++ List.replicate (width - left.length) ' ') ++ "  " ++ right

def table (margin : String) (entries : List (String × String)) : String :=
  let width := entries.foldl (fun width entry => max width entry.1.length) 0
  String.join (entries.map fun entry => margin ++ columns width entry.1 entry.2 ++ "\n")

/-! ## Options -/

def remarks (option : Opt) (environment : String → Option String) : List String :=
  (option.envName?.map fun name => s!"[env: {name}={(environment name).getD default}]").toList ++
    (option.defaultText?.map fun text => s!"[default: {text}]").toList ++
    if option.choices.isEmpty then []
    else [s!"[possible values: {Fault.listText option.choices}]"]

def optionEntry (environment : String → Option String) (option : Opt) : String × String :=
  (s!"    {option.shown}", " ".intercalate (option.about :: remarks option environment))

def atPlace : Option Opt → Option Opt → List Opt
  | some own, some other => if own.name < other.name then [own, other] else [other, own]
  | own, other => own.toList ++ other.toList

def listing (verb : Verb) : List Opt :=
  (List.range Opt.globals.length).flatMap fun place =>
    atPlace verb.own[place]? Opt.globals[place]?

example : listing .proxy =
    [.baseUrl, .listen, .config, .target, .area, .timeout, .output, .logLevel, .logFormat] := by
  decide +kernel

def flagEntries (verb : Verb) : List (String × String) :=
  ("-h, --help", "Print help") ::
    if verb = .main then [("-V, --version", "Print version")] else []

/-! ## Pages -/

def usage (verb : Verb) : String :=
  if verb.isGroup then s!"Usage: {verb.path} [OPTIONS] <COMMAND>\n"
  else s!"Usage: {verb.path} [OPTIONS]\n"

def commandList (verb : Verb) : String :=
  if verb.isGroup then
    "\nCommands:\n" ++ table "  "
      (verb.children.map (fun child => (child.name, child.about)) ++ [(helpName, helpAbout)])
  else ""

def Topic.text (environment : String → Option String) : Topic → String
  | .ofVerb verb =>
    s!"{verb.about}\n\n{usage verb}{commandList verb}\nOptions:\n" ++
      Text.shown (table "  " ((listing verb).map (optionEntry environment) ++ flagEntries verb))
  | .ofHelp verb =>
    s!"{helpAbout}\n\nUsage: {verb.path} {helpName} [COMMAND]...\n\nArguments:\n" ++
      table "  " [("[COMMAND]...", "Print help for the subcommand(s)")]

def versionText : String :=
  s!"{programName} {version}\n"

end NodeConsole.CommandLine
