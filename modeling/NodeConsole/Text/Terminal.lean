/-!
Text for a terminal. Control sequences and control characters are taken out, so that text from
outside can neither colour the screen nor move on it.
-/

namespace NodeConsole.Text

inductive ControlMode where
  | ground
  | escape
  | parameters
  /-- Inside a text for the terminal itself; the bell ends it where the flag is set. -/
  | string (bellEnds : Bool)
deriving DecidableEq, Repr

def isLayoutBlank (c : Char) : Bool :=
  c = '\t' || c = '\n' || c = '\r' || c = '\x0c'

def ControlMode.afterEscape (c : Char) : ControlMode :=
  if c = '[' then .parameters
  else if c = ']' then .string true
  else if c = 'P' || c = 'X' || c = '^' || c = '_' then .string false
  else if '0' ≤ c ∧ c ≤ '~' then .ground
  else .escape

def ControlMode.step (mode : ControlMode) (c : Char) : Bool × ControlMode :=
  if c = '\x1b' then (false, .escape)
  else if c = '\x18' || c = '\x1a' then (false, .ground)
  else
    match mode with
    | .ground => (isLayoutBlank c || (' ' ≤ c && c ≠ '\x7f'), .ground)
    | .escape => if isLayoutBlank c then (true, .ground) else (false, .afterEscape c)
    | .parameters =>
      if isLayoutBlank c then (true, .ground)
      else (false, if '@' ≤ c ∧ c ≤ '~' then .ground else .parameters)
    | .string bellEnds => (false, if bellEnds && c = '\x07' then .ground else .string bellEnds)

def shownFrom : ControlMode → List Char → List Char
  | _, [] => []
  | mode, c :: rest =>
    let (shown, mode) := mode.step c
    if shown then c :: shownFrom mode rest else shownFrom mode rest

def shown (s : String) : String :=
  String.ofList (shownFrom .ground s.toList)

example : shown "a\x1b[31mb\x07c\td\x7f" = "abc\td" := by decide +kernel

end NodeConsole.Text
