/-!
Tables written as text. An entry is a sequence of hexadecimal numbers with points between them, and
entries stand apart by blanks; so a table of thousands of entries stays one literal.
-/

namespace NodeConsole.Text

structure TableProgress where
  entries : List (List Nat)
  entry : List Nat
  number : Option Nat
deriving Repr

def TableProgress.close (progress : TableProgress) : TableProgress :=
  let entry := match progress.number with
    | none => progress.entry
    | some n => n :: progress.entry
  if entry = [] then ⟨progress.entries, [], none⟩ else ⟨entry.reverse :: progress.entries, [], none⟩

def TableProgress.step (progress : TableProgress) (c : Char) : TableProgress :=
  if '0' ≤ c ∧ c ≤ '9' then
    { progress with number := some (progress.number.getD 0 * 16 + (c.toNat - 48)) }
  else if 'a' ≤ c ∧ c ≤ 'f' then
    { progress with number := some (progress.number.getD 0 * 16 + (c.toNat - 87)) }
  else if c = '.' then
    { progress with entry := progress.number.toList ++ progress.entry, number := none }
  else progress.close

def table (text : String) : List (List Nat) :=
  (text.toList.foldl TableProgress.step ⟨[], [], none⟩).close.entries.reverse

def inTable (entries : List (List Nat)) (n : Nat) : Bool :=
  entries.any fun
    | first :: last :: _ => first ≤ n && n ≤ last
    | _ => false

end NodeConsole.Text
