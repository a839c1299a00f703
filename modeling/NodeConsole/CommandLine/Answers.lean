import NodeConsole.CommandLine.Option
/-!
The values of options, with where they come from. A value on the command line goes before one of
the environment, and that before the usual one.
-/

namespace NodeConsole.CommandLine

inductive Origin where
  | usual
  | environment
  | words
deriving DecidableEq, Repr

namespace Origin

def rank : Origin → Nat
  | .usual => 0
  | .environment => 1
  | .words => 2

def isExplicit (origin : Origin) : Bool :=
  origin ≠ .usual

end Origin

structure Given (option : Opt) where
  value : option.Value
  origin : Origin

structure Answers where
  given? : (option : Opt) → Option (Given option)
  mentioned : List Opt

namespace Answers

def empty : Answers where
  given? _ := none
  mentioned := []

instance : Inhabited Answers := ⟨empty⟩

def value? (answers : Answers) (option : Opt) : Option option.Value :=
  (answers.given? option).map Given.value

def set (answers : Answers) (option : Opt) (given : Given option) : Answers where
  given? other :=
    if equal : option = other then some (equal ▸ given) else answers.given? other
  mentioned :=
    if given.origin = .words && !answers.mentioned.contains option then
      answers.mentioned ++ [option]
    else answers.mentioned

def add (answers : Answers) (option : Opt) (value : option.Value) : Answers :=
  match answers.given? option with
  | some ⟨earlier, .words⟩ => answers.set option ⟨option.join earlier value, .words⟩
  | _ => answers.set option ⟨value, .words⟩

def isMentioned (answers : Answers) (option : Opt) : Bool :=
  answers.mentioned.contains option

def isExplicit (answers : Answers) (option : Opt) : Bool :=
  (answers.given? option).any fun given => given.origin.isExplicit

@[simp] theorem given?_set_same (answers : Answers) (option : Opt) (given : Given option) :
    (answers.set option given).given? option = some given := by
  simp [set]

theorem given?_set_other (answers : Answers) (option other : Opt) (given : Given option)
    (different : option ≠ other) :
    (answers.set option given).given? other = answers.given? other := by
  simp [set, different]

/-! ## Levels

Each command on the way to the one that is run has values of its own for the global options. -/

/-- The stronger of two values; of equals the inner one, which stands closer to the command. -/
def stronger (option : Opt) (outer inner : Option (Given option)) : Option (Given option) :=
  match outer, inner with
  | none, inner => inner
  | some outer, none => some outer
  | some outer, some inner =>
    if inner.origin.rank < outer.origin.rank then some outer else some inner

def merge (levels : List Answers) : Answers where
  given? option := levels.foldl (fun outer level => stronger option outer (level.given? option)) none
  mentioned := []

end Answers

end NodeConsole.CommandLine
