import NodeConsole.Http.Call
import NodeConsole.Url.Parser
/-!
Replies that name another place to ask. The place may be given relative to the one that was asked.
-/

namespace NodeConsole.Http

/-! ## Places -/

def isReferenceChar (c : Char) : Bool :=
  c.isAlphanum || "-._~:/?#[]@!$&'()*+,;=%".toList.contains c

def directoryOf (path : List Char) : List Char :=
  (path.reverse.dropWhile (· != '/')).reverse

def fullReference (base : Url) (reference : List Char) : List Char :=
  let authority := match base.host with
    | none => []
    | some host => '/' :: '/' :: Url.hostPortChars host base.port
  let scheme := base.scheme ++ [':']
  match reference with
  | [] => scheme ++ authority ++ base.path.chars ++ Url.markedPart '?' base.query
  | '/' :: '/' :: _ => scheme ++ reference
  | '/' :: _ => scheme ++ authority ++ reference
  | '?' :: _ => scheme ++ authority ++ base.path.chars ++ reference
  | '#' :: _ => scheme ++ authority ++ base.path.chars ++ Url.markedPart '?' base.query ++ reference
  | _ => scheme ++ authority ++ directoryOf base.path.chars ++ reference

/-- The URL that a reference names, as seen from another URL. It has to be a target as it stands. -/
def resolveReference? (base : Url) (reference : List Char) : Option Url :=
  let text := if (Url.splitScheme? reference).isSome then reference else fullReference base reference
  if reference.all isReferenceChar && (Target.parse? (String.ofList text)).isSome then
    match Url.ofChars text with
    | .error _ => none
    | .ok url => some { url with fragment := none }
  else none

def location? (base : Url) (headers : Headers) : Option Url :=
  match headers.values "location" with
  | [] => none
  | value :: _ => (Utf8.decode? value).bind (resolveReference? base)

/-! ## The next call -/

def bodyHeaders : List String :=
  ["content-type", "content-length", "content-encoding", "transfer-encoding"]

def Call.withoutBody (call : Call) (method : String) : Call :=
  { call with method := method, headers := call.headers.withoutAll bodyHeaders, body := .empty }

def Call.redirected? (call : Call) (status : Nat) : Option Call :=
  if status = 301 ∨ status = 302 then
    some (if call.method = "POST" then call.withoutBody "GET" else call)
  else if status = 303 then some (call.withoutBody (if call.method = "HEAD" then "HEAD" else "GET"))
  else if status = 307 ∨ status = 308 then some call
  else none

def privateHeaders : List String :=
  ["authorization", "cookie", "cookie2", "proxy-authorization", "www-authenticate"]

def portOf (url : Url) : Option Nat :=
  match url.port with
  | some port => some port
  | none => Url.impliedPort? url.scheme

def sameHost (left right : Url) : Bool :=
  left.host == right.host && portOf left == portOf right

/-- What is told to a host about the one that sent a call there. It is not told of an encrypted place
in plain. -/
def withReferer (headers : Headers) (url previous : Url) : Headers :=
  if url.scheme = "http".toList ∧ previous.scheme = "https".toList then headers
  else
    headers.put "referer" (Utf8.bytes ({ withoutCredentials previous with fragment := none }.text))

def Call.sentOn (call : Call) (previous next : Url) : Call :=
  let headers := if sameHost next previous then call.headers else call.headers.withoutAll privateHeaders
  { call with url := next, headers := withReferer headers next previous }

end NodeConsole.Http
