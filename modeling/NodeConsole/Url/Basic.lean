import NodeConsole.Url.Host
/-!
Absolute URLs, part by part, in the form in which they are shown: every part is percent-encoded, dot
segments are worked out, hosts are in their normal form, and a port that the scheme implies is left
out.
-/

namespace NodeConsole

inductive Url.Path where
  | plain (text : List Char)
  | segments (segments : List (List Char))
deriving DecidableEq, Repr

structure Url where
  scheme : List Char
  username : List Char := []
  password : Option (List Char) := none
  host : Option Url.Host := none
  port : Option Nat := none
  path : Url.Path
  query : Option (List Char) := none
  fragment : Option (List Char) := none
deriving DecidableEq, Repr

namespace Url

/-! ## Schemes -/

def impliedPort? (scheme : List Char) : Option Nat :=
  if scheme = "http".toList ∨ scheme = "ws".toList then some 80
  else if scheme = "https".toList ∨ scheme = "wss".toList then some 443
  else if scheme = "ftp".toList then some 21
  else none

def isFileScheme (scheme : List Char) : Bool :=
  scheme == "file".toList

/-- Whether a scheme is one of the web: its URLs have a host or name files, and a backslash divides
them as a slash does. -/
def isSpecial (scheme : List Char) : Bool :=
  (impliedPort? scheme).isSome || isFileScheme scheme

def isHttp (url : Url) : Bool :=
  url.scheme == "http".toList || url.scheme == "https".toList

/-! ## Text -/

def Path.chars : Path → List Char
  | .plain text => text
  | .segments path => joinSegments path

def credentialChars (url : Url) : List Char :=
  match url.username, url.password with
  | [], none => []
  | username, none => username ++ ['@']
  | username, some password => username ++ ':' :: password ++ ['@']

def hostPortChars (host : Host) (port : Option Nat) : List Char :=
  host.chars ++ port.elim [] fun port => ':' :: decimalChars port

/-- Whether a path would be taken for an authority if it stood right after the scheme. -/
def Path.looksLikeHost : Path → Bool
  | .segments ([] :: _ :: _) => true
  | _ => false

def authorityChars (url : Url) : List Char :=
  match url.host with
  | some host => '/' :: '/' :: url.credentialChars ++ hostPortChars host url.port
  | none => if url.path.looksLikeHost then ['/', '.'] else []

def markedPart (mark : Char) : Option (List Char) → List Char
  | none => []
  | some part => mark :: part

def chars (url : Url) : List Char :=
  url.scheme ++ ':' :: url.authorityChars ++ url.path.chars ++ markedPart '?' url.query ++
    markedPart '#' url.fragment

def text (url : Url) : String :=
  String.ofList url.chars

def pathText (url : Url) : String :=
  String.ofList url.path.chars

example : ({ scheme := "x".toList, path := .segments [[], ['a']] } : Url).text = "x:/.//a" := by
  decide +kernel

end Url

end NodeConsole
