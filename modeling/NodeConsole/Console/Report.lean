import NodeConsole.Json.Printer
import NodeConsole.Text.Utf8
/-!
How a settings document is shown: as a table with a row for each setting, or as indented JSON.
-/

namespace NodeConsole.Console

inductive Layout where
  | table
  | json
deriving DecidableEq, Repr, Inhabited

def cell : Json → String
  | .string text => text
  | value => value.compact

/-- The width of the first column: no key has more bytes, and so none has more characters. -/
def keyWidth (members : List (String × Json)) : Nat :=
  members.foldl (fun width member => max width (Utf8.bytes member.1).length) 3

def row (width : Nat) (key value : String) : String :=
  String.ofList (key.toList ++ List.replicate (width - key.toList.length) ' ' ++
    ' ' :: ' ' :: value.toList)

def rows (members : List (String × Json)) : List String :=
  row (keyWidth members) "KEY" "VALUE" ::
    members.map fun member => row (keyWidth members) member.1 (cell member.2)

def widestColumn : Nat :=
  65535

/-- A document as the user is shown it. No table has a wider first column than a column can be: where it
would need one, the program breaks off. -/
def report (document : Json) : Layout → Option String
  | .json => some document.indented
  | .table =>
    match document with
    | .object [] => some "(no settings)"
    | .object members =>
      if keyWidth members ≤ widestColumn then some ("\n".intercalate (rows members)) else none
    | .null => some "(empty response)"
    | other => some other.indented

example : report (.ofEntries [("né", .bool true), ("a", .string "x")]) .table =
    some "KEY  VALUE\na    x\nné   true" := by decide +kernel

end NodeConsole.Console
