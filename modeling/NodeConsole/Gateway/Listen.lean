import NodeConsole.Url.Address
/-!
Addresses to listen on: a numeric host and a port. Numbers of four-byte hosts have no superfluous
zeros; an eight-piece host stands in brackets, possibly with the number of an interface.
-/

namespace NodeConsole.Gateway

open NodeConsole.Url (digitIn? naturalIn? decimalChars address4Chars address6Chars)

inductive Listen where
  | four (host : Nat) (port : Nat)
  | eight (host : List Nat) (interface : Nat) (port : Nat)
deriving DecidableEq, Repr

namespace Listen

/-! ## Reading -/

def number? (base digits bound : Nat) (s : List Char) : Option (Nat × List Char) :=
  let text := s.takeWhile fun c => (digitIn? base c).isSome
  if text = [] ∨ digits < text.length then none
  else
    match naturalIn? base text with
    | some n => if n < bound then some (n, s.dropWhile fun c => (digitIn? base c).isSome) else none
    | none => none

def byte? (s : List Char) : Option (Nat × List Char) :=
  match s with
  | '0' :: c :: _ => if c.isDigit then none else number? 10 3 256 s
  | _ => number? 10 3 256 s

def mark? (mark : Char) : List Char → Option (List Char)
  | [] => none
  | c :: rest => if c = mark then some rest else none

def host4? (s : List Char) : Option (Nat × List Char) := do
  let (a, s) ← byte? s
  let (b, s) ← byte? (← mark? '.' s)
  let (c, s) ← byte? (← mark? '.' s)
  let (d, s) ← byte? (← mark? '.' s)
  some (((a * 256 + b) * 256 + c) * 256 + d, s)

/-- As many pieces as there are, up to a limit, with colons between them; whether the last two are
four bytes in decimal; and what follows. -/
def pieces (first : Bool) : Nat → List Char → List Nat × Bool × List Char
  | 0, s => ([], false, s)
  | limit + 1, s =>
    match if first then some s else mark? ':' s with
    | none => ([], false, s)
    | some after =>
      match if limit = 0 then none else host4? after with
      | some (host, rest) => ([host / 65536, host % 65536], true, rest)
      | none =>
        match number? 16 4 65536 after with
        | none => ([], false, s)
        | some (piece, rest) =>
          let (more, decimal, rest) := pieces false limit rest
          (piece :: more, decimal, rest)

def host6? (s : List Char) : Option (List Nat × List Char) :=
  let (front, decimal, rest) := pieces true 8 s
  if front.length = 8 then some (front, rest)
  else if decimal then none
  else
    match rest with
    | ':' :: ':' :: rest =>
      let (back, _, rest) := pieces true (7 - front.length) rest
      some (front ++ List.replicate (8 - front.length - back.length) 0 ++ back, rest)
    | _ => none

def port? (s : List Char) : Option Nat := do
  let rest ← mark? ':' s
  match number? 10 rest.length 65536 rest with
  | some (port, []) => some port
  | _ => none

def interface (s : List Char) : Nat × List Char :=
  match s with
  | '%' :: rest => (number? 10 rest.length (Nat.pow 2 32) rest).getD (0, s)
  | _ => (0, s)

def parse? (text : String) : Option Listen :=
  match text.toList with
  | '[' :: s => do
    let (host, s) ← host6? s
    let (interface, s) := interface s
    let port ← port? (← mark? ']' s)
    some (.eight host interface port)
  | s => do
    let (host, s) ← host4? s
    let port ← port? s
    some (.four host port)

/-! ## Text -/

def host6Chars : List Nat → List Char
  | [0, 0, 0, 0, 0, 0xFFFF, high, low] => "::ffff:".toList ++ address4Chars (high * 65536 + low)
  | host => address6Chars host

def text : Listen → String
  | .four host port => String.ofList (address4Chars host ++ ':' :: decimalChars port)
  | .eight host interface port =>
    String.ofList ('[' :: host6Chars host ++
      (if interface = 0 then [] else '%' :: decimalChars interface) ++
      ']' :: ':' :: decimalChars port)

example : (parse? "[1::ffff:1.2.3.4%07]:080").map text = some "[1::ffff:102:304%7]:80" := by
  decide +kernel
example : parse? "01.2.3.4:5" = none := by decide +kernel

end Listen

end NodeConsole.Gateway
