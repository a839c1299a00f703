import NodeConsole.Number.Binary64
/-!
JSON documents as values. The members of an object are kept in ascending order of their names, one
per name, so two documents with the same members are the same value.
-/

namespace NodeConsole

namespace Json

/-- A number: an integer of `-2 ^ 63 … 2 ^ 64 - 1`, or a finite binary64 number. -/
inductive Number where
  | integer (value : Int)
  | float (value : Binary64)
deriving DecidableEq, Repr

end Json

inductive Json where
  | null
  | bool (value : Bool)
  | number (value : Json.Number)
  | string (text : String)
  | array (items : List Json)
  | object (members : List (String × Json))
deriving BEq, Repr

/-- Entries in ascending order of their names, one per name. Names are ordered by their code
points, which is also the order of their UTF-8 bytes. -/
abbrev Members (α : Type) :=
  List (String × α)

namespace Members

def insert {α : Type} (name : String) (value : α) : Members α → Members α
  | [] => [(name, value)]
  | (other, kept) :: rest =>
    if name < other then (name, value) :: (other, kept) :: rest
    else if name = other then (name, value) :: rest
    else (other, kept) :: insert name value rest

def ofEntries {α : Type} (entries : List (String × α)) : Members α :=
  entries.foldl (fun members entry => insert entry.1 entry.2 members) []

def find? {α : Type} (name : String) : Members α → Option α
  | [] => none
  | (other, value) :: rest => if name = other then some value else find? name rest

example : ofEntries [("b", 1), ("a", 2), ("b", 3)] = [("a", 2), ("b", 3)] := by decide +kernel

end Members

namespace Json

def ofEntries (entries : List (String × Json)) : Json :=
  .object (Members.ofEntries entries)

end Json

end NodeConsole
