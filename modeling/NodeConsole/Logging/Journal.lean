import NodeConsole.Logging.Filter
/-!
The journal of a process: where its records go, and which build it is of. Both are settled once.
The first build that is named stays, also where its journal cannot be installed; a journal is
installed where none is yet.
-/

namespace NodeConsole.Logging

structure Setup where
  level : String
  format : Format
  build : String
deriving DecidableEq, Repr

inductive Sink where
  | absent
  /-- To somebody else, who does not show them. -/
  | foreign
  | installed (filter : Filter) (format : Format)
deriving DecidableEq, Repr

structure Journal where
  build? : Option String := none
  sink : Sink := .absent
deriving DecidableEq, Repr

def filterVariable : String :=
  "RUST_LOG"

def defaultLevel : String :=
  "info"

/-- The filter of a journal: the one of the environment where it can be read as one, and otherwise
the one of the setup, with what had to be left out. -/
def filterFor (setting : Option String) (level : String) :
    Filter × List (String × Directive.Error) :=
  match setting with
  | none => Filter.parseLenient level
  | some text =>
    match Filter.parse text with
    | .ok filter => (filter, [])
    | .error _ => Filter.parseLenient level

def leftOutText (part : String × Directive.Error) : String :=
  s!"ignoring \x60{part.1}\x60: {part.2.message}"

namespace Journal

def build (journal : Journal) : String :=
  journal.build?.getD "dev"

def installedAlready : String :=
  "failed to install tracing subscriber: a global default trace dispatcher has already been set"

def install (setting : Option String) (setup : Setup) (journal : Journal) : Bool × Journal :=
  let build? := journal.build?.or (some setup.build)
  match journal.sink with
  | .absent => (true, ⟨build?, .installed (filterFor setting setup.level).1 setup.format⟩)
  | .foreign => (false, ⟨build?, .foreign⟩)
  | .installed filter format => (false, ⟨build?, .installed filter format⟩)

def write? (journal : Journal) (record : Record) : Option Line :=
  match journal.sink with
  | .absent => none
  | .foreign => none
  | .installed filter format => (filter.admit? record).map fun kept => kept.written format

def writeAll (journal : Journal) (records : List Record) : List Line :=
  records.filterMap journal.write?

theorem build?_install (setting : Option String) (setup : Setup) (journal : Journal) :
    (journal.install setting setup).2.build? = some (journal.build?.getD setup.build) := by
  unfold install
  cases journal.sink <;> cases journal.build? <;> rfl

theorem sink_install_ne_absent (setting : Option String) (setup : Setup) (journal : Journal) :
    (journal.install setting setup).2.sink ≠ .absent := by
  unfold install
  cases journal.sink <;> simp

end Journal

end NodeConsole.Logging
