import NodeConsole.Text.Utf8
/-!
Targets of requests as a server receives them: a path with a query, an asterisk, a whole URL, or a
host alone. A fragment is dropped.
-/

namespace NodeConsole.Http

structure Target where
  path : List Char
  query : Option (List Char)
deriving DecidableEq, Repr

namespace Target

def limit : Nat :=
  65534

def isPathChar (c : Char) : Bool :=
  0x20 < c.toNat && c.toNat != 0x7F && !"<>\x60".toList.contains c

def isQueryChar (c : Char) : Bool :=
  0x20 < c.toNat && c.toNat != 0x7F && !"<>\"".toList.contains c

def isSchemeChar (c : Char) : Bool :=
  c.isAlphanum || "+-.".toList.contains c

def isAuthorityChar (c : Char) : Bool :=
  c.isAlphanum || "!$&'()*+,-.:;=@[]_~%".toList.contains c

def readPath? (s : List Char) : Option Target :=
  let s := s.takeWhile (· != '#')
  let path := s.takeWhile (· != '?')
  let query := (s.dropWhile (· != '?')).tail?
  if path.all isPathChar && query.all (·.all isQueryChar) then
    some ⟨if path = [] then ['/'] else path, query⟩
  else none

/-- Whether a text is the host part of an authority: brackets at most once and in order, one colon
outside of them, no percent sign. -/
def isHostPart (s : List Char) : Bool :=
  let afterBracket := (s.reverse.takeWhile (· != ']')).reverse
  let bracketed := s.contains '[' || s.contains ']'
  let inBrackets := ((s.dropWhile (· != '[')).tail).takeWhile (· != ']')
  let front := s.takeWhile (· != '[')
  if bracketed then
    s.count '[' == 1 && s.count ']' == 1 && !front.contains ']' && !front.contains '%' &&
      front.count ':' + inBrackets.count ':' ≤ 8 && afterBracket.count ':' ≤ 1 &&
      !afterBracket.contains '%'
  else s.count ':' ≤ 1 && !s.contains '%'

def isAuthority (s : List Char) : Bool :=
  let host := (s.reverse.takeWhile (· != '@')).reverse
  let users := s.take (s.length - host.length)
  s.all isAuthorityChar && isHostPart host && !(s.contains '@' && host = []) &&
    users.count ':' ≤ 8 && !users.contains '[' && !users.contains ']'

def endsAuthority (c : Char) : Bool :=
  c == '/' || c == '?' || c == '#'

def afterScheme? (s : List Char) : Option (List Char) :=
  match s.dropWhile isSchemeChar with
  | ':' :: '/' :: '/' :: rest => if (s.takeWhile isSchemeChar).length ≤ 64 then some rest else none
  | _ => none

def parse? (text : String) : Option Target :=
  if limit < (Utf8.bytes text).length then none
  else
    match text.toList with
    | [] => none
    | ['*'] => some ⟨['*'], none⟩
    | '/' :: rest => readPath? ('/' :: rest)
    | s =>
      match afterScheme? s with
      | some rest =>
        let authority := rest.takeWhile fun c => !endsAuthority c
        if authority = [] ∨ !isAuthority authority then none
        else readPath? (rest.dropWhile fun c => !endsAuthority c)
      | none => if isAuthority s then some ⟨[], none⟩ else none

example : parse? "http://h?x#y" = some ⟨['/'], some ['x']⟩ := by decide +kernel
example : parse? "h:80" = some ⟨[], none⟩ := by decide +kernel

end Target

end NodeConsole.Http
