import NodeConsole.Http.Client
import NodeConsole.Json.Printer
import NodeConsole.Json.Reader
import NodeConsole.Settings.Client
import NodeConsole.Text.Blank
import NodeConsole.Url.Parser
/-!
The transport over HTTP: paths are appended to a base URL, documents travel as JSON, and every call
can carry the identifier of the run it belongs to.
-/

namespace NodeConsole.Settings

structure Endpoint where
  baseUrl : String
  requestId : Option String := none
deriving DecidableEq, Repr

def requestIdHeader : String :=
  "x-request-id"

namespace Endpoint

def withRequestId (endpoint : Endpoint) (id : String) : Endpoint :=
  { endpoint with requestId := some id }

/-- The text of the URL of a path. Slashes at the end of the base URL are left out. -/
def urlText (endpoint : Endpoint) (path : String) : String :=
  String.ofList ((endpoint.baseUrl.toList.reverse.dropWhile (· == '/')).reverse ++ path.toList)

def urlFor (endpoint : Endpoint) (path : String) : Except CallError Url :=
  (Url.parse (endpoint.urlText path)).mapError (.badUrl (endpoint.urlText path))

def idHeaders (endpoint : Endpoint) : Http.Headers :=
  match endpoint.requestId with
  | none => []
  | some id => [(requestIdHeader, Utf8.bytes id)]

def isSendable (endpoint : Endpoint) : Bool :=
  endpoint.idHeaders.all fun header => header.2.all Http.isValueByte

def call (endpoint : Endpoint) (url : Url) (document : Option Json) : Http.Call :=
  let method := if document.isSome then "POST" else "GET"
  let call := Http.Call.ofUrl method url
  match document with
  | none => { call with headers := call.headers ++ endpoint.idHeaders }
  | some document =>
    { call with
      headers := call.headers ++ endpoint.idHeaders ++
        [("content-type", Utf8.bytes "application/json")]
      body := Http.bodyOf document.compact }

def isSuccess (status : Nat) : Bool :=
  200 ≤ status && status < 300

/-- The result that a response stands for. A body of blanks stands for null. -/
def resultOf (response : Http.Response) : Result :=
  match response.body with
  | .error fault => .error (.unanswered (.badBody fault))
  | .ok body =>
    let bytes := Http.bodyBytes body
    if !isSuccess response.status then
      .error (.refused response.status (String.ofList (Utf8.decodeLossy bytes)))
    else if bytes.all Text.isBlankByte then .ok .null
    else (Json.ofBytes bytes).mapError .undecodable

variable {σ : Type} [Http.Carrier σ]

def perform (endpoint : Endpoint) (path : String) (document : Option Json) (state : σ) : Result × σ :=
  match endpoint.urlFor path with
  | .error error => (.error error, state)
  | .ok url =>
    if !Http.hasHost url then (.error (.unanswered (.badScheme url.text)), state)
    else if !endpoint.isSendable then (.error (.unanswered .badHeaderValue), state)
    else
      match Http.send state Http.usualPatience (endpoint.call url document) with
      | (.error fault, state) => (.error (.unanswered fault), state)
      | (.ok response, state) => (resultOf response, state)

def transport (endpoint : Endpoint) : Transport σ where
  get path := endpoint.perform path none
  post path body := endpoint.perform path (some body)

end Endpoint

end NodeConsole.Settings
