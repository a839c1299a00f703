import NodeConsole.Console.Failure
import NodeConsole.Settings.Assignment
/-!
The settings document that a command sends: the content of a file, or single assignments.
-/

namespace NodeConsole.Console

structure Source where
  file : Option String := none
  assignments : List Settings.Assignment := []
deriving BEq, Repr

/-- The document of a file. A file that cannot be read is no fault of the input; one that holds
something else than JSON is. -/
def documentOfFile (files : Files) (path : String) : Except Failure Json :=
  match files.readText path with
  | .error reason => .error (.failed [s!"failed to read {path}", reason.message])
  | .ok text =>
    match Json.ofText text with
    | .error reason => .error (.rejected s!"settings file is not valid JSON: {reason.message}")
    | .ok document => .ok document

def Source.document (source : Source) (files : Files) : Except Failure Json :=
  match source.file with
  | some path => documentOfFile files path
  | none =>
    if source.assignments.isEmpty then .error (.rejected "no settings provided")
    else .ok (Settings.documentOf source.assignments)

end NodeConsole.Console
