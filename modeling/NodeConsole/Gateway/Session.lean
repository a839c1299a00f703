import NodeConsole.Gateway.Forward
import NodeConsole.Http.Reason
import NodeConsole.Http.RequestHead
/-!
Connections to the gateway that carry one request each.
-/

namespace NodeConsole.Gateway

structure Served where
  version : Nat
  reply : Http.Reply

def Served.statusLine (served : Served) : String :=
  s!"HTTP/1.{served.version} {served.reply.status} {Http.reason served.reply.status}"

def closing (version : Nat) (reply : Http.Reply) : Served :=
  if version = 0 then ⟨version, reply⟩
  else
    ⟨version, { reply with headers := reply.headers ++ [("connection", Utf8.bytes "close")] }⟩

theorem body_closing (version : Nat) (reply : Http.Reply) :
    (closing version reply).reply.body = reply.body := by
  rw [closing]
  split <;> rfl

theorem values_closing {name : String} (other : name ≠ "connection") (version : Nat)
    (reply : Http.Reply) :
    (closing version reply).reply.headers.values name = reply.headers.values name := by
  have unnamed : Http.Headers.values [("connection", Utf8.bytes "close")] name = [] := by
    simp [Http.Headers.values, Ne.symm other]
  rw [closing]
  split
  · rfl
  · rw [Http.Headers.values_append, unnamed, List.append_nil]

def badRequest (fault : Http.HeadFault) : Served :=
  let status := if fault = .tooLarge then 431 else 400
  closing 1 (finished "" (ownReply status ""))

/-- Answer the request that a connection carries. Where a connection breaks off before the request
has begun in earnest, there is no answer. -/
def Config.serve {σ : Type} [Http.Carrier σ] (config : Config) (bytes : List UInt8) (state : σ) :
    Option Served × σ :=
  match Http.readRequestHead bytes with
  | .error .closed => (none, state)
  | .error fault => (some (badRequest fault), state)
  | .ok (head, rest) =>
    match Http.readRequestBody head rest with
    | .error fault => (some (badRequest fault), state)
    | .ok body =>
      let incoming : Incoming := {
        method := head.method
        path := head.target.path
        query := head.target.query
        headers := head.headers
        body := body.toOption.getD .empty
        breaksOff := !body.isOk }
      let (reply, state) := config.answer incoming state
      (some (closing head.version reply), state)

end NodeConsole.Gateway
