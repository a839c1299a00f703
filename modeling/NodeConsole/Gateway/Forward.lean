import NodeConsole.Gateway.Config
import NodeConsole.Http.Client
/-!
Forwarding. A request is sent on to its place at the target, and what comes back is handed on; what
belongs to one connection only stays behind in both directions.
-/

namespace NodeConsole.Gateway

def bodyLimit : Nat :=
  16 * 1024 * 1024

def connectionHeaders : List String :=
  ["connection", "proxy-authenticate", "proxy-authorization", "te", "trailer", "transfer-encoding",
   "upgrade", "keep-alive"]

def endToEnd (headers : Http.Headers) : Http.Headers :=
  (headers.withoutAll connectionHeaders).without "content-length"

theorem ne_length_of_mem {name : String} (ofConnection : name ∈ connectionHeaders) :
    name ≠ "content-length" := by
  rintro rfl
  exact absurd ofConnection (by decide)

theorem values_endToEnd_of_mem {name : String} (ofConnection : name ∈ connectionHeaders)
    (headers : Http.Headers) : (endToEnd headers).values name = [] := by
  rw [endToEnd, Http.Headers.values_without_other (ne_length_of_mem ofConnection),
    Http.Headers.values_withoutAll_of_mem ofConnection]

theorem values_endToEnd_length (headers : Http.Headers) :
    (endToEnd headers).values "content-length" = [] :=
  Http.Headers.values_without_self _ _

theorem values_endToEnd_of_not_mem {name : String} (notLength : name ≠ "content-length")
    (notConnection : name ∉ connectionHeaders) (headers : Http.Headers) :
    (endToEnd headers).values name = headers.values name := by
  rw [endToEnd, Http.Headers.values_without_other notLength,
    Http.Headers.values_withoutAll_of_not_mem notConnection]

structure Incoming where
  method : String
  path : List Char
  query : Option (List Char) := none
  headers : Http.Headers := []
  body : ByteArray := .empty
  breaksOff : Bool := false

inductive Refusal where
  | notCovered
  | bodyTooLarge
deriving DecidableEq, Repr

def Refusal.status : Refusal → Nat
  | .notCovered => 404
  | .bodyTooLarge => 413

def withSenderHeaders (headers sender : Http.Headers) : Http.Headers :=
  headers.withoutAll (sender.map (·.1)) ++ sender

def Incoming.callTo (incoming : Incoming) (url : Url) : Http.Call :=
  let call := Http.Call.ofUrl incoming.method url
  { call with
    headers := withSenderHeaders call.headers ((endToEnd incoming.headers).without "host")
    body := incoming.body }

/-- Where a request is sent on to. A body is only read once that is known. -/
def Config.route (config : Config) (incoming : Incoming) : Except Refusal Url :=
  match config.destination? incoming.path incoming.query with
  | none => .error .notCovered
  | some url =>
    if incoming.breaksOff || bodyLimit < incoming.body.size then .error .bodyTooLarge else .ok url

def ownReply (status : Nat) (text : String) : Http.Reply where
  status := status
  headers := if text.isEmpty then [] else [("content-type", Utf8.bytes "text/plain; charset=utf-8")]
  body := Http.bodyOf text

def relay (response : Http.Response) : Http.Reply :=
  match response.body with
  | .error _ => ownReply 502 "upstream body unreadable"
  | .ok body => { status := response.status, headers := endToEnd response.headers, body := body }

def replyTo : Except Http.Fault Http.Response → Http.Reply
  | .error _ => ownReply 502 "upstream unavailable"
  | .ok response => relay response

variable {σ : Type} [Http.Carrier σ]

def Config.forward (config : Config) (incoming : Incoming) (state : σ) : Http.Reply × σ :=
  match config.route incoming with
  | .error refusal => (ownReply refusal.status "", state)
  | .ok url =>
    let (outcome, state) := Http.send state none (incoming.callTo url)
    (replyTo outcome, state)

/-- A reply to a request by a given method: it tells the length of its body, and replies to `HEAD`
have none. A tunnel that was granted has neither length nor body. -/
def finished (method : String) (reply : Http.Reply) : Http.Reply :=
  if method = "CONNECT" ∧ 200 ≤ reply.status ∧ reply.status < 300 then { reply with body := .empty }
  else
    { reply with
      headers := reply.headers.putNew "content-length" (Http.decimalValue reply.body.size)
      body := if method = "HEAD" then .empty else reply.body }

theorem told_of_finished {method : String} (notHead : method ≠ "HEAD") {reply : Http.Reply}
    (untold : reply.headers.values "content-length" = []) {value : List UInt8}
    (told : value ∈ (finished method reply).headers.values "content-length") :
    value = Http.decimalValue reply.body.size ∧ (finished method reply).body = reply.body := by
  rw [finished] at told ⊢
  split at told
  · rw [untold] at told
    cases told
  · next notTunnel =>
    rw [Http.Headers.values_putNew_self, if_pos untold, List.mem_singleton] at told
    rw [if_neg notTunnel, if_neg notHead]
    exact ⟨told, rfl⟩

def Config.answer (config : Config) (incoming : Incoming) (state : σ) : Http.Reply × σ :=
  let (reply, state) := config.forward incoming state
  (finished incoming.method reply, state)

theorem Config.answer_fst (config : Config) (incoming : Incoming) (state : σ) :
    (config.answer incoming state).1 = finished incoming.method (config.forward incoming state).1 :=
  rfl

end NodeConsole.Gateway
