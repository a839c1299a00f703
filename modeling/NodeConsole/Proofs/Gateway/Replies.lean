import NodeConsole.Gateway.Session
import NodeConsole.Proofs.Gateway.Forwarding
/-!
The reply to a request that was sent on. What comes back in full is handed on with all of its headers
but those of one connection; the length that the client is told is that of what it is given, in
whatever way the target marked the end of its reply.
-/

namespace NodeConsole.Gateway

open NodeConsole.Http (Exchange Response)

namespace Config

variable {σ : Type} [Http.Carrier σ]

/-- A response that was read in full reaches the client as it is: its status, its body, and under
each name of a header the same values in the same order. Only the names of one connection are gone,
and the length of the body is told anew. Where it is told at all, and the client asked for more than
the headers, it is the number of bytes that follow. -/
theorem relayed_response {listen : Listen} {area target : String} {config : Config}
    (made : make listen area target = .ok config) {incoming : Incoming} {state : σ}
    {exchange : Exchange} (carried : exchange ∈ config.exchangesOf incoming state)
    {response : Response} (answered : exchange.outcome = .ok response) {body : ByteArray}
    (whole : response.body = .ok body) :
    (config.forward incoming state).1 = relay response ∧
    (relay response).status = response.status ∧ (relay response).body = body ∧
    (∀ name, name ≠ "content-length" → name ∉ connectionHeaders →
      (relay response).headers.values name = response.headers.values name) ∧
    (∀ name ∈ connectionHeaders, (relay response).headers.values name = []) ∧
    (incoming.method ≠ "HEAD" → ∀ version,
      let seen := (closing version (config.answer incoming state).1).reply
      ∀ value ∈ seen.headers.values "content-length",
        value = Utf8.bytes (toString body.size) ∧ seen.body = body) := by
  rcases forward_of_mem_exchangesOf (make_target made).2.1 carried with ⟨_, _, _, replied⟩
  rw [answered] at replied
  have relayed := relay_of_ok whole
  refine ⟨replied, ?_⟩
  rw [relayed]
  refine ⟨rfl, rfl, fun name notLength notConnection => ?_, fun name ofConnection => ?_, ?_⟩
  · exact values_endToEnd_of_not_mem notLength notConnection response.headers
  · exact values_endToEnd_of_mem ofConnection response.headers
  · intro notHead version seen value told
    have untold : (relay response).headers.values "content-length" = [] := by
      rw [relayed]
      exact values_endToEnd_length response.headers
    have finishes : (config.answer incoming state).1 = finished incoming.method (relay response) := by
      rw [answer_fst, replied, replyTo]
    rw [values_closing (by decide), finishes] at told
    rw [body_closing, finishes]
    rcases told_of_finished notHead untold told with ⟨length, same⟩
    rw [relayed] at length same
    rw [relayed, ← Http.decimalValue_eq]
    exact ⟨length, same⟩

def asking : Incoming where
  method := "GET"
  path := "/manager".toList

def chunkingNode : Http.Network where
  reachable := true
  answers := [.raw (Utf8.bytes
    ("HTTP/1.1 404 Gone\nset-cookie: a\ntransfer-encoding: chunked\nset-cookie: b\n\n" ++
      "2\r\nhe\r\n3\r\nllo\r\n0\r\n\r\n"))]

def received (exchange : Exchange) : Option (Http.Headers × Option (List UInt8)) :=
  exchange.outcome.toOption.map fun response =>
    (response.headers, response.body.toOption.map Http.bodyBytes)

theorem exists_of_received {exchange : Exchange} {headers : Http.Headers} {bytes : List UInt8}
    (glance : received exchange = some (headers, some bytes)) :
    ∃ response body, exchange.outcome = .ok response ∧ response.body = .ok body ∧
      response.headers = headers ∧ body.size = bytes.length := by
  rcases exchange with ⟨call, fault | ⟨status, told, fault | body⟩⟩
  · cases glance
  · cases glance
  · cases glance
    exact ⟨_, body, rfl, rfl, rfl, (Http.length_bodyBytes body).symm⟩

theorem exists_of_map_received {exchanges : List Exchange} {headers : Http.Headers} {bytes : List UInt8}
    (glance : exchanges.map received = [some (headers, some bytes)]) :
    ∃ exchange ∈ exchanges, ∃ response body, exchange.outcome = .ok response ∧
      response.body = .ok body ∧ response.headers = headers := by
  rcases List.map_eq_singleton_iff.mp glance with ⟨exchange, only, back⟩
  rcases exists_of_received back with ⟨response, body, answered, whole, same, _⟩
  have member : exchange ∈ exchanges := by
    rw [only]
    exact List.mem_singleton_self exchange
  exact ⟨exchange, member, response, body, answered, whole, same⟩

theorem relayed_response_of_chunks :
    (nodeGateway.forward asking chunkingNode).1.headers.values "set-cookie" =
        [Utf8.bytes "a", Utf8.bytes "b"] ∧
      (nodeGateway.forward asking chunkingNode).1.headers.values "transfer-encoding" = [] ∧
      ∀ value ∈ (nodeGateway.answer asking chunkingNode).1.headers.values "content-length",
        value = Utf8.bytes "5" := by
  have glance : (nodeGateway.exchangesOf asking chunkingNode).map received =
      [some ([("set-cookie", Utf8.bytes "a"), ("transfer-encoding", Utf8.bytes "chunked"),
        ("set-cookie", Utf8.bytes "b")], some (Utf8.bytes "hello"))] := by decide +kernel
  rcases List.map_eq_singleton_iff.mp glance with ⟨exchange, exchanges, back⟩
  have carried : exchange ∈ nodeGateway.exchangesOf asking chunkingNode := by
    rw [exchanges]
    exact List.mem_singleton_self exchange
  rcases exists_of_received back with ⟨response, body, answered, whole, headers, size⟩
  rcases relayed_response make_nodeGateway carried answered whole with
    ⟨replied, _, _, others, ofConnection, length⟩
  rw [replied]
  refine ⟨?_, ofConnection "transfer-encoding" (by decide), fun value told => ?_⟩
  · rw [others "set-cookie" (by decide) (by decide), headers]
    decide +kernel
  · rw [← values_closing (by decide) 0] at told
    rw [(length (by decide) 0 value told).1, size]
    decide +kernel

end Config

end NodeConsole.Gateway
