import NodeConsole.Proofs.Gateway.Replies
/-!
Replies to a client that asks for the headers only. They are handed on like any other, but for their
length: that of the body that would follow is dropped with the headers of one connection, and the length
that is told in its place is that of the body that was read, which is none.
-/

namespace NodeConsole.Http

/-! ## Replies without a body -/

/-- What carries calls reads no body behind the head of a reply to `HEAD`. -/
class Bodiless (σ : Type) [Carrier σ] : Prop where
  body_of_head {call : Call} (isHead : call.method = "HEAD") {asked : Url} {state after : σ}
    {response : Response} (carried : Carrier.carry asked call state = (.ok response, after)) :
    response.body = .ok .empty

/-- An answer to `HEAD` has no body, whatever bytes it consists of. -/
theorem body_of_ofBytes_head {s : List UInt8} {status : Nat} {headers : Headers}
    {body : Except BodyFault ByteArray}
    (answered : Outcome.ofBytes "HEAD" s = .answered status headers body) :
    body = .ok .empty := by
  rw [Outcome.ofBytes] at answered
  split at answered
  · cases answered
  · rw [readBody, if_pos (.inl rfl)] at answered
    cases answered
    rfl

theorem Network.body_of_exchange_head {network after : Network} {request : Request}
    (isHead : request.method = "HEAD") {status : Nat} {headers : Headers}
    {body : Except BodyFault ByteArray}
    (exchanged : network.exchange request = (.answered status headers body, after)) :
    body = .ok .empty := by
  rw [Network.exchange, isHead] at exchanged
  split at exchanged
  · exact body_of_ofBytes_head (Prod.mk.inj exchanged).1
  · exact body_of_ofBytes_head (Prod.mk.inj exchanged).1

instance : Bodiless Network where
  body_of_head {call} isHead {asked state after response} carried := by
    have sent : exchange state asked call = (.ok response, after) := carried
    rw [exchange] at sent
    split at sent
    · cases sent
    · split at sent
      · cases sent
      · cases exchanged : state.exchange call.request with
        | mk outcome later =>
            rw [exchanged] at sent
            cases outcome with
            | lost fault => cases sent
            | answered status headers body =>
                cases sent
                exact Network.body_of_exchange_head isHead exchanged

end NodeConsole.Http

namespace NodeConsole.Gateway

theorem finished_head (reply : Http.Reply) :
    finished "HEAD" reply =
      { reply with
        headers := reply.headers.putNew "content-length" (Http.decimalValue reply.body.size)
        body := .empty } := by
  rw [finished, if_neg (by simp), if_pos rfl]

theorem values_finished_head {name : String} (notLength : name ≠ "content-length") (reply : Http.Reply) :
    (finished "HEAD" reply).headers.values name = reply.headers.values name := by
  rw [finished_head]
  exact Http.Headers.values_putNew_other notLength _ _

theorem length_finished_head {reply : Http.Reply}
    (untold : reply.headers.values "content-length" = []) :
    (finished "HEAD" reply).headers.values "content-length" = [Utf8.bytes (toString reply.body.size)] := by
  rw [finished_head]
  dsimp only
  rw [Http.Headers.values_putNew_self, if_pos untold, Http.decimalValue_eq]

namespace Config

variable {σ : Type} [Http.Carrier σ]

/-- A reply to a client that asks for the headers only. Its status and its headers are handed on as they
came, but for the headers of one connection and for the length: that is told as none, whatever the node
told, so that a length comes through exactly if it is zero. -/
theorem relayed_to_head [Http.Bodiless σ] {listen : Listen} {area target : String} {config : Config}
    (made : make listen area target = .ok config) {incoming : Incoming}
    (isHead : incoming.method = "HEAD") {state : σ} {exchange : Http.Exchange}
    (carried : exchange ∈ config.exchangesOf incoming state) {response : Http.Response}
    (answered : exchange.outcome = .ok response) :
    (config.answer incoming state).1.status = response.status ∧
    (config.answer incoming state).1.body = .empty ∧
    (∀ name, name ≠ "content-length" → name ∉ connectionHeaders →
      (config.answer incoming state).1.headers.values name = response.headers.values name) ∧
    (∀ name ∈ connectionHeaders, (config.answer incoming state).1.headers.values name = []) ∧
    (config.answer incoming state).1.headers.values "content-length" = [Utf8.bytes "0"] ∧
    ∀ length, Http.bodyLength? response.headers = some length →
      (Http.bodyLength? (config.answer incoming state).1.headers = some length ↔ length = 0) := by
  rcases carry_of_mem_exchangesOf (make_target made).2.1 carried with ⟨url, after, _, same, sent, replied⟩
  rw [answered] at sent replied
  have byHead : exchange.call.method = "HEAD" := by
    rw [same, Incoming.callTo_method, isHead]
  have relayed := relay_of_ok (Http.Bodiless.body_of_head byHead sent)
  have finishes : (config.answer incoming state).1 = finished "HEAD" (relay response) := by
    rw [answer_fst, replied, isHead, replyTo]
  rw [finishes]
  have told : (finished "HEAD" (relay response)).headers.values "content-length" =
      [Utf8.bytes "0"] := by
    rw [relayed, length_finished_head (values_endToEnd_length _), ByteArray.size_empty]
    rfl
  have lengthTold : Http.bodyLength? (finished "HEAD" (relay response)).headers = some 0 := by
    rw [Http.bodyLength?, told]
    decide
  refine ⟨?_, ?_, fun name notLength notConnection => ?_, fun name ofConnection => ?_, told,
    fun length _ => ?_⟩
  · rw [finished_head, relayed]
  · rw [finished_head]
  · rw [values_finished_head notLength, relayed]
    exact values_endToEnd_of_not_mem notLength notConnection response.headers
  · rw [values_finished_head (ne_length_of_mem ofConnection), relayed]
    exact values_endToEnd_of_mem ofConnection response.headers
  · rw [lengthTold, Option.some.injEq, eq_comm]

def askingForHead : Incoming where
  method := "HEAD"
  path := "/manager".toList

def tellingNode : Http.Network where
  reachable := true
  answers := [.reply 200 "OK" [("etag", Utf8.bytes "a")] (Utf8.bytes "hello") false]

theorem relayed_to_head_of_telling :
    (nodeGateway.answer askingForHead tellingNode).1.headers.values "etag" = [Utf8.bytes "a"] ∧
      (nodeGateway.answer askingForHead tellingNode).1.headers.values "connection" = [] ∧
      Http.bodyLength? (nodeGateway.answer askingForHead tellingNode).1.headers ≠ some 5 := by
  have glance : (nodeGateway.exchangesOf askingForHead tellingNode).map received =
      [some ([("etag", Utf8.bytes "a"), ("content-length", Utf8.bytes "5"),
        ("connection", Utf8.bytes "close")], some [])] := by decide +kernel
  rcases exists_of_map_received glance with
    ⟨exchange, carried, response, _, answered, _, headers⟩
  rcases relayed_to_head make_nodeGateway rfl carried answered with
    ⟨_, _, others, ofConnection, _, lengths⟩
  have five : Http.bodyLength? response.headers = some 5 := by
    rw [headers]
    decide +kernel
  refine ⟨?_, ofConnection "connection" (by decide), fun told => ?_⟩
  · rw [others "etag" (by decide) (by decide), headers]
    decide +kernel
  · exact absurd ((lengths 5 five).mp told) (by decide)

theorem length_to_head_lost :
    (nodeGateway.exchangesOf askingForHead tellingNode).map
        (fun exchange => (received exchange).map fun back => Http.bodyLength? back.1) =
          [some (some 5)] ∧
      (nodeGateway.answer askingForHead tellingNode).1.headers.values "content-length" =
        [Utf8.bytes "0"] := by
  decide +kernel

end Config

end NodeConsole.Gateway
