import NodeConsole.Json.Reader
import NodeConsole.Text.Blank
/-!
Single settings given as texts of the form `KEY=VALUE`. A value is JSON where it can be read as
that; any other text is taken as a string.
-/

namespace NodeConsole.Settings

structure Assignment where
  key : String
  value : Json
deriving BEq, Repr

inductive Assignment.Error where
  | noMark (text : String)
  | noKey (text : String)
deriving DecidableEq, Repr

namespace Assignment

def Error.message : Error → String
  | .noMark text => s!"expected KEY=VALUE, got '{text}'"
  | .noKey text => s!"missing key in '{text}'"

def valueOf (text : String) : Json :=
  match Json.ofText text with
  | .ok value => value
  | .error _ => .string text

/-- Read an assignment. The first equals sign ends the key, which stands between blanks. -/
def parse (text : String) : Except Error Assignment :=
  match text.toList.dropWhile (· != '=') with
  | [] => .error (.noMark text)
  | _ :: value =>
    let key := Text.trimChars (text.toList.takeWhile (· != '='))
    if key = [] then .error (.noKey text)
    else .ok ⟨String.ofList key, valueOf (String.ofList value)⟩

end Assignment

def documentOf (assignments : List Assignment) : Json :=
  .ofEntries (assignments.map fun assignment => (assignment.key, assignment.value))

end NodeConsole.Settings
