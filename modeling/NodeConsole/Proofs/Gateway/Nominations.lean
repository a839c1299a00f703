import NodeConsole.Proofs.Gateway.Replies
import NodeConsole.Proofs.Gateway.RequestHeaders
/-!
Headers that a message nominates for one connection by listing their names. A gateway keeps to its own
list of such names: what a message nominates beside those is passed on like everything else, in both
directions, and nothing that is passed on depends on what was nominated.
-/

namespace NodeConsole.Http

def Headers.nominated (headers : Headers) : List String :=
  ((headers.values "connection").flatMap commaPieces).map lowerName

theorem Headers.withoutAll_without {names : List String} {name : String} (listed : name ∈ names)
    (headers : Headers) : (headers.without name).withoutAll names = headers.withoutAll names := by
  rw [withoutAll, withoutAll, without, List.filter_filter]
  apply List.filter_congr
  intro header _
  by_cases same : header.1 = name <;> simp [same, listed]

theorem Call.values_request_of_given {name : String} {call : Call}
    (notHost : name ≠ "host") (notLength : name ≠ "content-length")
    (given : call.headers.values name ≠ []) :
    call.request.headers.values name = call.headers.values name := by
  by_cases accepts : name = "accept"
  · rw [accepts] at given ⊢
    rw [Call.values_request_accept, if_neg given]
  · exact Call.values_request_other (by simp [suppliedNames, accepts, notHost, notLength]) call

end NodeConsole.Http

namespace NodeConsole.Gateway

/-! ## Headers that are left out -/

theorem endToEnd_without_connection (headers : Http.Headers) :
    endToEnd (headers.without "connection") = endToEnd headers := by
  rw [endToEnd, Http.Headers.withoutAll_without (by decide), endToEnd]

/-- Messages that differ in their connection headers only have the same headers passed on. -/
theorem endToEnd_congr {left right : Http.Headers}
    (same : left.without "connection" = right.without "connection") :
    endToEnd left = endToEnd right := by
  rw [← endToEnd_without_connection, same, endToEnd_without_connection]

theorem Incoming.callTo_congr {incoming : Incoming} {headers : Http.Headers}
    (same : headers.without "connection" = incoming.headers.without "connection") (url : Url) :
    ({ incoming with headers := headers } : Incoming).callTo url = incoming.callTo url := by
  rw [callTo, callTo, endToEnd_congr same]

theorem Incoming.values_request_of_given {name : String} {incoming : Incoming}
    (passed : name ∉ withheldNames) (given : incoming.headers.values name ≠ []) (url : Url) :
    (incoming.callTo url).request.headers.values name = incoming.headers.values name := by
  have told : (incoming.callTo url).headers.values name = incoming.headers.values name := by
    rw [values_callTo, values_passedOn_of_not_mem passed, if_neg given]
  simp only [withheldNames, List.mem_cons, not_or] at passed
  rw [Http.Call.values_request_of_given passed.1 passed.2.1 (told ▸ given), told]

theorem Incoming.values_request_of_mem {name : String} (listed : name ∈ connectionHeaders)
    (incoming : Incoming) (url : Url) :
    (incoming.callTo url).request.headers.values name = [] := by
  have apart : ∀ other ∈ connectionHeaders, other ∉ Http.suppliedNames ∧ other ∈ withheldNames := by
    decide
  rw [Http.Call.values_request_other (apart name listed).1,
    values_callTo_of_mem (apart name listed).2]

theorem values_relay {response : Http.Response} {body : ByteArray}
    (whole : response.body = .ok body) (name : String) :
    (relay response).headers.values name = (endToEnd response.headers).values name := by
  rw [Config.relay_of_ok whole]

namespace Config

variable {σ : Type} [Http.Carrier σ]

theorem forward_congr {config : Config} {incoming : Incoming} {headers : Http.Headers}
    (same : headers.without "connection" = incoming.headers.without "connection") (state : σ) :
    config.forward { incoming with headers := headers } state = config.forward incoming state := by
  rw [forward, forward]
  cases routed : config.route incoming with
  | error refusal =>
      have alike : config.route { incoming with headers := headers } = .error refusal := routed
      rw [alike]
  | ok url =>
      have alike : config.route { incoming with headers := headers } = .ok url := routed
      rw [alike]
      dsimp only
      rw [Incoming.callTo_congr same]

/-- What a request or a reply nominates for one connection by naming it in its connection headers stays
behind if it is one of the names that belong to one connection anyway. Any other header that it nominates
is passed on with all of its values, but for host and length, which are told anew. Whatever is nominated,
the same is passed on. -/
theorem nominated_headers {listen : Listen} {area target : String} {config : Config}
    (made : make listen area target = .ok config) {incoming : Incoming} {state : σ}
    {exchange : Http.Exchange} (carried : exchange ∈ config.exchangesOf incoming state) :
    (∀ name ∈ incoming.headers.nominated,
      (name ∈ connectionHeaders → exchange.call.request.headers.values name = []) ∧
      (name ∉ withheldNames → incoming.headers.values name ≠ [] →
        exchange.call.request.headers.values name = incoming.headers.values name)) ∧
    (∀ headers : Http.Headers,
      headers.without "connection" = incoming.headers.without "connection" →
        config.exchangesOf { incoming with headers := headers } state =
          config.exchangesOf incoming state) ∧
    ∀ response body, exchange.outcome = .ok response → response.body = .ok body →
      (config.forward incoming state).1 = relay response ∧
      (∀ name ∈ response.headers.nominated,
        (name ∈ connectionHeaders → (relay response).headers.values name = []) ∧
        (name ∉ connectionHeaders → name ≠ "content-length" →
          (relay response).headers.values name = response.headers.values name)) ∧
      ∀ headers : Http.Headers,
        headers.without "connection" = response.headers.without "connection" →
          relay { response with headers := headers } = relay response := by
  rcases forward_of_mem_exchangesOf (make_target made).2.1 carried with ⟨url, _, same, replied⟩
  refine ⟨fun name _ => ⟨fun listed => ?_, fun passed given => ?_⟩, fun headers alike => ?_,
    fun response body answered whole => ⟨?_,
      fun name _ => ⟨fun listed => ?_, fun unlisted notLength => ?_⟩, fun headers alike => ?_⟩⟩
  · rw [same, Incoming.values_request_of_mem listed]
  · rw [same, Incoming.values_request_of_given passed given]
  · rw [exchangesOf, forward_congr alike, exchangesOf]
  · rw [replied, answered, replyTo]
  · rw [values_relay whole, values_endToEnd_of_mem listed]
  · rw [values_relay whole, values_endToEnd_of_not_mem notLength unlisted]
  · have still : ({ response with headers := headers } : Http.Response).body = .ok body := whole
    rw [relay_of_ok still, relay_of_ok whole, endToEnd_congr alike]

def nominating : Incoming where
  method := "GET"
  path := "/manager".toList
  headers :=
    [("connection", Utf8.bytes "keep-alive,\tX-Hop"), ("x-hop", Utf8.bytes "1"),
      ("keep-alive", Utf8.bytes "timeout=5"), ("connection", Utf8.bytes "close")]

def nominatingNode : Http.Network where
  reachable := true
  answers :=
    [.reply 200 "OK" [("connection", Utf8.bytes "X-Trace"), ("x-trace", Utf8.bytes "1")] [] false]

theorem nominated_headers_of_nominating :
    (∃ exchange ∈ nodeGateway.exchangesOf nominating nominatingNode,
      exchange.call.request.headers.values "keep-alive" = [] ∧
      exchange.call.request.headers.values "x-hop" = [Utf8.bytes "1"]) ∧
    (nodeGateway.forward nominating nominatingNode).1.headers.values "x-trace" = [Utf8.bytes "1"] := by
  have glance : (nodeGateway.exchangesOf nominating nominatingNode).map received =
      [some ([("connection", Utf8.bytes "X-Trace"), ("x-trace", Utf8.bytes "1"),
        ("content-length", Utf8.bytes "0"), ("connection", Utf8.bytes "close")], some [])] := by
    decide +kernel
  rcases exists_of_map_received glance with
    ⟨exchange, carried, response, body, answered, whole, headers⟩
  rcases nominated_headers make_nodeGateway carried with ⟨there, _, returned⟩
  rcases returned response body answered whole with ⟨replied, handedOn, _⟩
  refine ⟨⟨exchange, carried, ?_, ?_⟩, ?_⟩
  · exact (there "keep-alive" (by decide +kernel)).1 (by decide)
  · exact (there "x-hop" (by decide +kernel)).2 (by decide) (by decide)
  · have named : "x-trace" ∈ response.headers.nominated := by
      rw [headers]
      decide +kernel
    rw [replied, (handedOn "x-trace" named).2 (by decide) (by decide), headers]
    decide +kernel

theorem nominated_but_passed_on :
    "x-hop" ∈ nominating.headers.nominated ∧
      (nodeGateway.exchangesOf nominating nominatingNode).map
        (fun exchange => exchange.call.request.headers.values "x-hop") = [[Utf8.bytes "1"]] ∧
      (nodeGateway.exchangesOf nominating nominatingNode).map
        (fun exchange => (received exchange).map fun back => back.1.nominated) =
          [some ["x-trace", "close"]] ∧
      (nodeGateway.answer nominating nominatingNode).1.headers.values "x-trace" = [Utf8.bytes "1"] := by
  decide +kernel

end Config

end NodeConsole.Gateway
