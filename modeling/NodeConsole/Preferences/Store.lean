import NodeConsole.Preferences.Basic
/-!
Handles on shared preferences. Handles that were cloned from one another form a family and share one
state: what is written through one of them is read through all. Every other new handle starts a
family of its own.
-/

namespace NodeConsole.Preferences

/-- All families and all handles ever created, both numbered in order of creation. A handle names
its family until it is dropped. -/
structure Store where
  families : List Preferences := []
  handles : List (Option Nat) := []
deriving DecidableEq, Repr, Inhabited

inductive Operation where
  | create (seed : Preferences)
  | reseed (handle : Nat)
  | clone (handle : Nat)
  | set (handle : Nat) (flag : Flag) (value : Bool)
  | get (handle : Nat) (flag : Flag)
  | snapshot (handle : Nat)
  | drop (handle : Nat)
deriving DecidableEq, Repr

inductive Answer where
  | done
  | flag (value : Bool)
  | preferences (copy : Preferences)
  | noHandle
deriving DecidableEq, Repr

namespace Store

def family? (store : Store) (handle : Nat) : Option Nat :=
  store.handles[handle]?.join

def view? (store : Store) (handle : Nat) : Option Preferences :=
  (store.family? handle).bind fun family => store.families[family]?

def create (store : Store) (seed : Preferences) : Store where
  families := store.families ++ [seed]
  handles := store.handles ++ [some store.families.length]

def join (store : Store) (family : Nat) : Store :=
  { store with handles := store.handles ++ [some family] }

def write (store : Store) (family : Nat) (flag : Flag) (value : Bool) : Store :=
  { store with families := store.families.modify family fun state => state.set flag value }

def release (store : Store) (handle : Nat) : Store :=
  { store with handles := store.handles.set handle none }

/-- Carry out an operation. One on a handle that is missing or dropped changes nothing. -/
def step (store : Store) : Operation → Store × Answer
  | .create seed => (store.create seed, .done)
  | .reseed handle =>
    match store.view? handle with
    | some state => (store.create state, .done)
    | none => (store, .noHandle)
  | .clone handle =>
    match store.family? handle with
    | some family => (store.join family, .done)
    | none => (store, .noHandle)
  | .set handle flag value =>
    match store.family? handle with
    | some family => (store.write family flag value, .done)
    | none => (store, .noHandle)
  | .get handle flag =>
    match store.view? handle with
    | some state => (store, .flag (state.get flag))
    | none => (store, .noHandle)
  | .snapshot handle =>
    match store.view? handle with
    | some state => (store, .preferences state)
    | none => (store, .noHandle)
  | .drop handle =>
    match store.family? handle with
    | some _ => (store.release handle, .done)
    | none => (store, .noHandle)

def run (store : Store) (operations : List Operation) : Store :=
  operations.foldl (fun store operation => (store.step operation).1) store

end Store

end NodeConsole.Preferences
