import NodeConsole.Http.Message
import NodeConsole.Http.Target
import NodeConsole.Text.Base64
import NodeConsole.Url.Basic
/-!
Requests before they are sent. User name and password do not travel inside the URL: they are taken
out of it and become a header.
-/

namespace NodeConsole.Http

structure Call where
  method : String
  url : Url
  headers : Headers := []
  body : ByteArray := .empty

def withoutCredentials (url : Url) : Url :=
  { url with username := [], password := none }

def basicCredentials (username password : List UInt8) : List UInt8 :=
  Utf8.encode ("Basic ".toList ++ Text.base64 (username ++ [0x3A] ++ password))

def decodedPart? (part : List Char) : Option (List UInt8) :=
  let bytes := Url.percentDecode (Utf8.encode part)
  (Utf8.decode? bytes).map fun _ => bytes

def credentials? (url : Url) : Option (List UInt8 × List UInt8) :=
  match decodedPart? url.username with
  | none => none
  | some username =>
    let password := url.password.bind decodedPart?
    if username = [] ∧ password = none then none else some (username, password.getD [])

def Call.ofUrl (method : String) (url : Url) : Call :=
  match credentials? url with
  | none => { method := method, url := url }
  | some (username, password) =>
    { method := method
      url := withoutCredentials url
      headers := [("authorization", basicCredentials username password)] }

@[simp] theorem Call.ofUrl_method (method : String) (url : Url) :
    (Call.ofUrl method url).method = method := by
  rw [Call.ofUrl]
  split <;> rfl

theorem Call.withoutCredentials_ofUrl (method : String) (url : Url) :
    withoutCredentials (Call.ofUrl method url).url = withoutCredentials url := by
  rw [Call.ofUrl]
  split <;> rfl

theorem Call.ofUrl_headers (method : String) (url : Url) :
    (Call.ofUrl method url).headers =
      (credentials? url).toList.map fun who => ("authorization", basicCredentials who.1 who.2) := by
  rw [Call.ofUrl]
  cases credentials? url <;> rfl

def hasHost (url : Url) : Bool :=
  match url.host with
  | none => false
  | some host => host != .named []

/-- Whether a URL can be the target of a request. It may be too long, and its parts may have characters
that those of a target have not. -/
def isTarget (url : Url) : Bool :=
  decide ((Utf8.bytes url.text).length ≤ Target.limit) &&
    url.host.all (·.chars.all Target.isAuthorityChar) && url.path.chars.all Target.isPathChar &&
      url.query.all (·.all Target.isQueryChar)

def hostPort (url : Url) : String :=
  match url.host with
  | none => ""
  | some host => String.ofList (Url.hostPortChars host url.port)

def Call.target (call : Call) : String :=
  if call.method = "CONNECT" then hostPort call.url
  else { call.url with fragment := none }.text

def Call.request (call : Call) : Request where
  method := call.method
  target := call.target
  headers :=
    let headers := (call.headers.putNew "accept" (Utf8.bytes "*/*")).putNew "host"
      (Utf8.bytes (hostPort call.url))
    if call.body.size = 0 then headers
    else headers.putNew "content-length" (decimalValue call.body.size)
  body := call.body

def Call.tunnelRequest (call : Call) : Request :=
  let target := match call.url.host with
    | none => ""
    | some host => String.ofList (Url.hostPortChars host (some (call.url.port.getD 443)))
  { method := "CONNECT", target := target, headers := [("host", Utf8.bytes target)] }

end NodeConsole.Http
