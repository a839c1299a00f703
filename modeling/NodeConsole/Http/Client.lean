import NodeConsole.Http.Network
import NodeConsole.Http.Redirect
/-!
Sending calls. What is wrong with a call itself is found before anything is sent; a reply may send
the call elsewhere, up to a limit.
-/

namespace NodeConsole.Http

structure Response where
  status : Nat
  headers : Headers
  body : Except BodyFault ByteArray

/-- How many redirections a client follows; none at all means that a redirection is an answer. -/
abbrev Patience :=
  Option Nat

def usualPatience : Patience :=
  some 10

def exchange (network : Network) (asked : Url) (call : Call) : Except Fault Response × Network :=
  let encrypted := call.url.scheme == "https".toList
  if !network.reachable then (.error (.unreachable asked.text encrypted), network)
  else if encrypted then
    (.error (.tunnelRefused asked.text), network.receive call.tunnelRequest)
  else
    match network.exchange call.request with
    | (.lost fault, network) => (.error (.badReply asked.text fault), network)
    | (.answered status headers body, network) => (.ok ⟨status, headers, body⟩, network)

/-! ## What carries calls -/

/-- What carries a call to the other side and brings back what comes of it; `σ` is what that acts
upon. Faults name the URL that was asked for first. -/
class Carrier (σ : Type) where
  carry (asked : Url) (call : Call) : σ → Except Fault Response × σ

instance : Carrier Network where
  carry asked call network := exchange network asked call

structure Exchange where
  call : Call
  outcome : Except Fault Response

structure Recorded (σ : Type) where
  state : σ
  exchanges : List Exchange := []

variable {σ : Type} [Carrier σ]

/-- Remembering exchanges changes nothing about them. -/
instance : Carrier (Recorded σ) where
  carry asked call recorded :=
    let (outcome, state) := Carrier.carry asked call recorded.state
    (outcome, ⟨state, recorded.exchanges ++ [⟨call, outcome⟩]⟩)

/-! ## Sending -/

def Call.redirection? (call : Call) (url : Url) (response : Response) : Option (Call × Url) := do
  let next ← call.redirected? response.status
  let place ← location? url response.headers
  some (next, place)

/-- Follow redirections. `call` is what is sent on, and `url` is where it was sent last. -/
def follow (asked url : Url) : Nat → Call → Except Fault Response × σ → Except Fault Response × σ
  | _, _, (.error fault, state) => (.error fault, state)
  | patience, call, (.ok response, state) =>
    match call.redirection? url response, patience with
    | none, _ => (.ok response, state)
    | some _, 0 => (.error (.tooManyRedirects url.text), state)
    | some (next, place), patience + 1 =>
      if !place.isHttp then (.error (.badScheme place.text), state)
      else follow asked place patience next (Carrier.carry asked (next.sentOn url place) state)

theorem follow_error (asked url : Url) (patience : Nat) (call : Call) (fault : Fault) (state : σ) :
    follow asked url patience call (.error fault, state) = (.error fault, state) := by
  cases patience <;> rfl

theorem follow_of_none {url : Url} {call : Call} {response : Response}
    (ends : call.redirection? url response = none) (asked : Url) (patience : Nat) (state : σ) :
    follow asked url patience call (.ok response, state) = (.ok response, state) := by
  cases patience <;> simp [follow, ends]

theorem follow_zero_of_some {url place : Url} {call next : Call} {response : Response}
    (sends : call.redirection? url response = some (next, place)) (asked : Url) (state : σ) :
    follow asked url 0 call (.ok response, state) = (.error (.tooManyRedirects url.text), state) := by
  simp [follow, sends]

theorem follow_succ_of_some {url place : Url} {call next : Call} {response : Response}
    (sends : call.redirection? url response = some (next, place)) (asked : Url) (patience : Nat)
    (state : σ) :
    follow asked url (patience + 1) call (.ok response, state) =
      if place.isHttp then
        follow asked place patience next (Carrier.carry asked (next.sentOn url place) state)
      else (.error (.badScheme place.text), state) := by
  rw [follow.eq_def]
  cases web : place.isHttp <;> simp [sends, web]

def send (state : σ) (patience : Patience) (call : Call) : Except Fault Response × σ :=
  if !call.url.isHttp then (.error (.badScheme call.url.text), state)
  else if !isTarget call.url then (.error (.badTarget call.url.text), state)
  else
    let first := Carrier.carry call.url call state
    match patience with
    | none => first
    | some patience => follow call.url call.url patience call first

end NodeConsole.Http
