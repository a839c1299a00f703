import NodeConsole.Url.Address
import NodeConsole.Url.Domain
/-!
Hosts. The hosts of web schemes are domain names and numeric addresses; a host of any other scheme
is a text that is taken as it is, or an address in brackets.
-/

namespace NodeConsole.Url

inductive Host where
  | named (name : List Char)
  | address4 (address : Nat)
  | address6 (pieces : List Nat)
deriving DecidableEq, Repr

namespace Host

def chars : Host → List Char
  | .named name => name
  | .address4 address => address4Chars address
  | .address6 pieces => '[' :: address6Chars pieces ++ [']']

def ofBrackets (inside : List Char) : Except Error Host :=
  if inside.getLast? = some ']' then
    match address6? inside.dropLast with
    | some pieces => .ok (.address6 pieces)
    | none => .error .badAddress6
  else .error .badAddress6

/-- The host of a web scheme. A name whose last label is a number has to be an address. -/
def ofSpecial : List Char → Except Error Host
  | '[' :: inside => ofBrackets inside
  | text => do
    let name ← Domain.ofHost text
    if endsInNumber name then
      match address4? name with
      | some address => .ok (.address4 address)
      | none => .error .badAddress4
    else .ok (.named name)

def isForbidden (c : Char) : Bool :=
  "\x00\t\n\r #/:<>?@[\\]^|".toList.contains c

def ofText : List Char → Except Error Host
  | '[' :: inside => ofBrackets inside
  | text =>
    if text.any isForbidden then .error .forbiddenHostCharacter
    else .ok (.named (percentEncode escapedInText text))

example : (ofSpecial "Node".toList).toOption = some (.named "node".toList) := by decide +kernel
example : (ofText "A b".toList).toOption = none := by decide +kernel

end Host

end NodeConsole.Url
