import NodeConsole.Proofs.Gateway.Forwarding
import NodeConsole.Proofs.Url.ImpliedPort
/-!
The headers of a request that is sent on. What the client sent under a name arrives under that name,
all of it and in order, unless the name belongs to one connection or tells the host or the length of
the body; only those two are told anew, and what the client left out may be added.
-/

namespace NodeConsole.Gateway

/-! ## Headers that are passed on -/

def withheldNames : List String :=
  "host" :: "content-length" :: connectionHeaders

def Incoming.passedOn (incoming : Incoming) : Http.Headers :=
  (endToEnd incoming.headers).without "host"

theorem Incoming.values_passedOn_of_mem {name : String} (withheld : name ∈ withheldNames)
    (incoming : Incoming) : incoming.passedOn.values name = [] := by
  rw [passedOn]
  by_cases isHost : name = "host"
  · rw [isHost, Http.Headers.values_without_self]
  · rw [Http.Headers.values_without_other isHost]
    by_cases isLength : name = "content-length"
    · rw [isLength, values_endToEnd_length]
    · have ofConnection : name ∈ connectionHeaders := by
        simpa [withheldNames, isHost, isLength] using withheld
      exact values_endToEnd_of_mem ofConnection incoming.headers

theorem Incoming.values_passedOn_of_not_mem {name : String} (passed : name ∉ withheldNames)
    (incoming : Incoming) : incoming.passedOn.values name = incoming.headers.values name := by
  simp only [withheldNames, List.mem_cons, not_or] at passed
  rcases passed with ⟨notHost, notLength, notConnection⟩
  rw [passedOn, Http.Headers.values_without_other notHost,
    values_endToEnd_of_not_mem notLength notConnection]

theorem values_withSenderHeaders (headers sender : Http.Headers) (name : String) :
    (withSenderHeaders headers sender).values name =
      if sender.values name = [] then headers.values name else sender.values name := by
  rw [withSenderHeaders, Http.Headers.values_append]
  split
  · next silent =>
    rw [Http.Headers.values_withoutAll_of_not_mem (Http.Headers.values_eq_nil_iff.mp silent), silent,
      List.append_nil]
  · next given =>
    have named : name ∈ sender.map (·.1) :=
      Decidable.not_not.mp fun unnamed => given (Http.Headers.values_eq_nil_iff.mpr unnamed)
    rw [Http.Headers.values_withoutAll_of_mem named, List.nil_append]

theorem Incoming.values_callTo (incoming : Incoming) (url : Url) (name : String) :
    (incoming.callTo url).headers.values name =
      if incoming.passedOn.values name = [] then
        (Http.Call.ofUrl incoming.method url).headers.values name
      else incoming.passedOn.values name :=
  values_withSenderHeaders _ _ name

theorem Incoming.values_callTo_of_not_mem {name : String} (passed : name ∉ withheldNames)
    (notAuthorization : name ≠ "authorization") (incoming : Incoming) (url : Url) :
    (incoming.callTo url).headers.values name = incoming.headers.values name := by
  rw [values_callTo, values_passedOn_of_not_mem passed]
  split
  · next silent => rw [Http.Call.values_ofUrl_other notAuthorization, silent]
  · rfl

theorem Incoming.values_callTo_of_mem {name : String} (withheld : name ∈ withheldNames)
    (incoming : Incoming) (url : Url) : (incoming.callTo url).headers.values name = [] := by
  have notAuthorization : name ≠ "authorization" := by
    rintro rfl
    exact absurd withheld (by decide)
  rw [values_callTo, if_pos (values_passedOn_of_mem withheld incoming),
    Http.Call.values_ofUrl_other notAuthorization]

theorem Incoming.values_callTo_authorization (incoming : Incoming) (url : Url) :
    (incoming.callTo url).headers.values "authorization" =
      if incoming.headers.values "authorization" = [] then
        (Http.credentials? url).toList.map fun who => Http.basicCredentials who.1 who.2
      else incoming.headers.values "authorization" := by
  rw [values_callTo, values_passedOn_of_not_mem (by decide), Http.Call.values_ofUrl_authorization]

theorem Incoming.hostPort_callTo (incoming : Incoming) (url : Url) :
    Http.hostPort (incoming.callTo url).url = Http.hostPort url := by
  injection incoming.withoutCredentials_callTo url with _ _ _ sameHost samePort
  rw [Http.hostPort, Http.hostPort, sameHost, samePort]

/-! ## Headers of what is carried -/

namespace Config

variable {σ : Type} [Http.Carrier σ]

/-- The headers of whatever is carried for a request. Names of one connection do not occur; the host
is that of the target, without a port that goes without saying; the length, where it is told, is that
of the body. Under any other name stands what the client sent, byte for byte and in order, and only
where it sent nothing the target's credentials and the acceptance of anything are added. -/
theorem forwarded_headers {listen : Listen} {area target : String} {config : Config}
    (made : make listen area target = .ok config) {incoming : Incoming} {state : σ}
    {exchange : Http.Exchange} (carried : exchange ∈ config.exchangesOf incoming state) :
    (∀ name, name ∉ withheldNames → name ≠ "accept" → name ≠ "authorization" →
      exchange.call.request.headers.values name = incoming.headers.values name) ∧
    exchange.call.request.headers.values "accept" =
      (if incoming.headers.values "accept" = [] then [Utf8.bytes "*/*"]
        else incoming.headers.values "accept") ∧
    (incoming.headers.values "authorization" ≠ [] →
      exchange.call.request.headers.values "authorization" = incoming.headers.values "authorization") ∧
    (incoming.headers.values "authorization" = [] →
      Http.Introduces config.target (exchange.call.request.headers.values "authorization")) ∧
    (∀ name ∈ connectionHeaders, exchange.call.request.headers.values name = []) ∧
    exchange.call.request.headers.values "host" = [Utf8.bytes (Http.hostPort config.target)] ∧
    (∀ port, config.target.port = some port →
      Url.impliedPort? config.target.scheme ≠ some port) ∧
    exchange.call.request.headers.values "content-length" =
      (if exchange.call.request.body.size = 0 then []
        else [Utf8.bytes (toString exchange.call.request.body.size)]) ∧
    exchange.call.request.body = incoming.body := by
  rcases make_target made with ⟨parsed, web, _⟩
  rcases of_mem_exchangesOf web carried with ⟨url, inside, same⟩
  rcases destination?_parts inside with ⟨place, asked, rfl⟩
  rw [same]
  have authorization : (incoming.callTo { config.target with path := place, query := asked }).request.headers.values
      "authorization" = if incoming.headers.values "authorization" = [] then
        (Http.credentials? config.target).toList.map fun who => Http.basicCredentials who.1 who.2
      else incoming.headers.values "authorization" := by
    rw [Http.Call.values_request_other (by decide), Incoming.values_callTo_authorization]
    rfl
  refine ⟨fun name passed notAccept notAuthorization => ?_, ?_, fun sent => ?_, fun unsent => ?_,
    fun name ofConnection => ?_, ?_, Url.ofChars_tells parsed, ?_, rfl⟩
  · have notSupplied : name ∉ Http.suppliedNames := by
      simp only [withheldNames, List.mem_cons, not_or] at passed
      simp [Http.suppliedNames, notAccept, passed.1, passed.2.1]
    rw [Http.Call.values_request_other notSupplied,
      Incoming.values_callTo_of_not_mem passed notAuthorization]
  · rw [Http.Call.values_request_accept,
      Incoming.values_callTo_of_not_mem (by decide) (by decide)]
  · rw [authorization, if_neg sent]
  · rw [authorization, if_pos unsent]
    exact Http.introduces_credentials? config.target
  · have apart : ∀ other ∈ connectionHeaders, other ∉ Http.suppliedNames ∧ other ∈ withheldNames := by
      decide
    rw [Http.Call.values_request_other (apart name ofConnection).1,
      Incoming.values_callTo_of_mem (apart name ofConnection).2]
  · rw [Http.Call.values_request_host (Incoming.values_callTo_of_mem (by decide) incoming _),
      Incoming.hostPort_callTo]
    rfl
  · exact Http.Call.values_request_length (Incoming.values_callTo_of_mem (by decide) incoming _)

def askingTwice : Incoming where
  method := "GET"
  path := "/manager".toList
  headers :=
    [("cookie", Utf8.bytes "a"), ("host", Utf8.bytes "elsewhere"), ("te", Utf8.bytes "gzip"),
      ("cookie", Utf8.bytes "b")]

theorem forwarded_headers_of_askingTwice :
    ∃ exchange ∈ nodeGateway.exchangesOf askingTwice ({} : Http.Network),
      exchange.call.request.headers.values "cookie" = [Utf8.bytes "a", Utf8.bytes "b"] ∧
      exchange.call.request.headers.values "authorization" = [Utf8.bytes "Basic dTpw"] ∧
      exchange.call.request.headers.values "te" = [] ∧
      exchange.call.request.headers.values "host" = [Utf8.bytes "gw:8080"] := by
  have some_exchange : nodeGateway.exchangesOf askingTwice ({} : Http.Network) ≠ [] := by
    apply List.ne_nil_of_length_pos
    decide +kernel
  rcases List.exists_mem_of_ne_nil _ some_exchange with ⟨exchange, carried⟩
  rcases forwarded_headers make_nodeGateway carried with
    ⟨others, _, _, introduces, ofConnection, host, _⟩
  have unsent : askingTwice.headers.values "authorization" = [] := by decide +kernel
  have introduced := (introduces unsent).both "p".toList rfl (by decide +kernel) (by decide +kernel)
  refine ⟨exchange, carried, ?_, ?_, ofConnection "te" (by decide), ?_⟩
  · rw [others "cookie" (by decide) (by decide) (by decide)]
    decide +kernel
  · rw [introduced]
    decide +kernel
  · rw [host]
    decide +kernel

end Config

end NodeConsole.Gateway
