import NodeConsole.CommandLine.Verb
import NodeConsole.Text.Terminal
/-!
What can be wrong with a command line.
-/

namespace NodeConsole.CommandLine

inductive Fault where
  | unexpected (word : String)
  | unexpectedValue (word value : String)
  | unknownCommand (name : String)
  | noValue (option : Opt)
  | noChoice (option : Opt) (text : String)
  | badValue (option : Opt) (text reason : String)
  | repeated (option : Opt)
  | conflict (first second : Opt)
  | missing (option : Opt)
  | noCommand (verb : Verb)
deriving DecidableEq, Repr

namespace Fault

def ofMisfit (option : Opt) (text : String) : Misfit → Fault
  | .nothing => .noValue option
  | .noChoice => .noChoice option text
  | .malformed reason => .badValue option text reason

def listText (names : List String) : String :=
  ", ".intercalate names

def choicesText (option : Opt) : String :=
  if option.choices.isEmpty then "" else s!"\n  [possible values: {listText option.choices}]"

def reason : Fault → String
  | .unexpected word => s!"unexpected argument '{word}' found"
  | .unexpectedValue word value =>
    s!"unexpected value '{value}' for '{word}' found; no more were expected"
  | .unknownCommand name => s!"unrecognized subcommand '{name}'"
  | .noValue option =>
    s!"a value is required for '{option.shown}' but none was supplied{choicesText option}"
  | .noChoice option text => s!"invalid value '{text}' for '{option.shown}'{choicesText option}"
  | .badValue option text reason => s!"invalid value '{text}' for '{option.shown}': {reason}"
  | .repeated option => s!"the argument '{option.shown}' cannot be used multiple times"
  | .conflict first second =>
    s!"the argument '{first.shown}' cannot be used with '{second.shown}'"
  | .missing option =>
    s!"the following required arguments were not provided:\n  {option.shown}"
  | .noCommand verb =>
    s!"'{verb.path}' requires a subcommand but one was not provided" ++
      s!"\n  [subcommands: {listText verb.childNames}]"

def message (fault : Fault) : String :=
  Text.shown s!"error: {fault.reason}"

end Fault

end NodeConsole.CommandLine
