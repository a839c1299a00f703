import NodeConsole.Gateway.Forward
import NodeConsole.Proofs.Gateway.Destination
import NodeConsole.Proofs.Http.Calls
import NodeConsole.Proofs.Http.Exchanges
import NodeConsole.Proofs.Http.Targets
/-!
What becomes of a request at a gateway. It is answered on the spot, and nothing is sent, unless its
path lies in the area and its body can be read in full; then there is one attempt to send it on, and
the reply depends on what comes back from that and on nothing else.
-/

namespace NodeConsole.Gateway

open NodeConsole.Http (Exchange Recorded Response Fault BodyFault)

/-! ## Calls -/

theorem Config.isWritten_destination {listen : Listen} {area target : String} {config : Config}
    (made : make listen area target = .ok config) {path : List Char} {query : Option (List Char)} {url : Url}
    (sent : config.destination? path query = some url) : url.IsWritten := by
  rcases make_target made with ⟨parsed, web, _⟩
  rcases destination?_eq_some_iff.mp sent with ⟨_, rfl, _⟩
  have written := Url.isWritten_ofChars parsed (Url.isWeb_of_isHttp web)
  exact (written.withPath _).withQuery (Url.isSpecial_of_isHttp web) query

theorem Incoming.callTo_method (incoming : Incoming) (url : Url) :
    (incoming.callTo url).method = incoming.method :=
  Http.Call.ofUrl_method incoming.method url

theorem Incoming.withoutCredentials_callTo (incoming : Incoming) (url : Url) :
    Http.withoutCredentials (incoming.callTo url).url = Http.withoutCredentials url :=
  Http.Call.withoutCredentials_ofUrl incoming.method url

namespace Config

variable {σ : Type} [Http.Carrier σ]

def exchangesOf (config : Config) (incoming : Incoming) (state : σ) : List Exchange :=
  (config.forward incoming (⟨state, []⟩ : Recorded σ)).2.exchanges

/-- Recording what is exchanged changes nothing about it. -/
theorem forward_recorded (config : Config) (incoming : Incoming) (recorded : Recorded σ) :
    (config.forward incoming recorded).map id Recorded.state =
      config.forward incoming recorded.state := by
  rw [forward, forward]
  cases config.route incoming with
  | error refusal => rfl
  | ok url =>
      dsimp only
      rw [← Http.send_recorded recorded]
      rfl

/-! ## Routes -/

theorem route_of_none {config : Config} {incoming : Incoming}
    (outside : config.destination? incoming.path incoming.query = none) :
    config.route incoming = .error .notCovered := by
  rw [route, outside]

theorem route_of_some {config : Config} {incoming : Incoming} {url : Url}
    (inside : config.destination? incoming.path incoming.query = some url) :
    config.route incoming =
      if incoming.breaksOff = true ∨ bodyLimit < incoming.body.size then .error .bodyTooLarge
      else .ok url := by
  rw [route, inside]
  simp

theorem forward_of_refused {config : Config} {incoming : Incoming} {refusal : Refusal}
    (refused : config.route incoming = .error refusal) (state : σ) :
    config.forward incoming state = (ownReply refusal.status "", state) ∧
      config.exchangesOf incoming state = [] := by
  constructor
  · rw [forward, refused]
  · rw [exchangesOf, forward, refused]

/-! ## Attempts -/

/-- A request that is not refused is carried once, as it is, unless it is for a URL that cannot be a
target. -/
theorem send_callTo {config : Config} (incoming : Incoming) {url : Url}
    (web : config.target.isHttp = true)
    (inside : config.destination? incoming.path incoming.query = some url) (state : σ) :
    Http.send state none (incoming.callTo url) =
      if Http.isTarget (incoming.callTo url).url then
        Http.Carrier.carry (incoming.callTo url).url (incoming.callTo url) state
      else (.error (.badTarget (incoming.callTo url).url.text), state) := by
  have same := incoming.withoutCredentials_callTo url
  injection same with sameScheme
  have callWeb : (incoming.callTo url).url.isHttp = true := by
    rcases destination?_parts inside with ⟨place, asked, rfl⟩
    rw [Url.isHttp, sameScheme]
    exact web
  exact Http.send_none callWeb state

theorem forward_of_sent {config : Config} {incoming : Incoming} {url : Url} {state after : σ}
    {outcome : Except Fault Response} (routed : config.route incoming = .ok url)
    (sent : Http.send state none (incoming.callTo url) = (outcome, after)) :
    config.forward incoming state = (replyTo outcome, after) := by
  rw [forward, routed]
  dsimp only
  rw [sent]

theorem exchangesOf_of_sent {config : Config} {incoming : Incoming} {url : Url} {state after : σ}
    {outcome : Except Fault Response} (web : config.target.isHttp = true)
    (inside : config.destination? incoming.path incoming.query = some url)
    (routed : config.route incoming = .ok url)
    (sent : Http.send state none (incoming.callTo url) = (outcome, after)) :
    config.exchangesOf incoming state =
      if Http.isTarget (incoming.callTo url).url then [⟨incoming.callTo url, outcome⟩] else [] := by
  rw [send_callTo incoming web inside] at sent
  rw [exchangesOf, forward, routed]
  dsimp only
  rw [send_callTo incoming web inside]
  split
  · next sendable =>
    rw [if_pos sendable] at sent
    rw [Http.carry_recorded, sent, List.nil_append]
  · rfl

/-- Whatever is carried for a request is the request, on its way to where it belongs, and what comes of
that is all that the answer depends on. -/
theorem carry_of_mem_exchangesOf {config : Config} {incoming : Incoming} {state : σ}
    {exchange : Exchange} (web : config.target.isHttp = true)
    (carried : exchange ∈ config.exchangesOf incoming state) :
    ∃ url after, config.destination? incoming.path incoming.query = some url ∧
      exchange.call = incoming.callTo url ∧
      Http.Carrier.carry exchange.call.url exchange.call state = (exchange.outcome, after) ∧
      config.forward incoming state = (replyTo exchange.outcome, after) := by
  cases inside : config.destination? incoming.path incoming.query with
  | none =>
      rw [(forward_of_refused (route_of_none inside) state).2] at carried
      cases carried
  | some url =>
      have routed := route_of_some inside
      split at routed
      · rw [(forward_of_refused routed state).2] at carried
        cases carried
      · rcases attempt : Http.send state none (incoming.callTo url) with ⟨outcome, after⟩
        rw [exchangesOf_of_sent web inside routed attempt] at carried
        split at carried
        · next sendable =>
          rw [List.mem_singleton] at carried
          subst carried
          have sent := send_callTo incoming web inside state
          rw [if_pos sendable, attempt] at sent
          exact ⟨url, after, rfl, rfl, sent.symm, forward_of_sent routed attempt⟩
        · cases carried

theorem forward_of_mem_exchangesOf {config : Config} {incoming : Incoming} {state : σ}
    {exchange : Exchange} (web : config.target.isHttp = true)
    (carried : exchange ∈ config.exchangesOf incoming state) :
    ∃ url, config.destination? incoming.path incoming.query = some url ∧
      exchange.call = incoming.callTo url ∧
      (config.forward incoming state).1 = replyTo exchange.outcome := by
  rcases carry_of_mem_exchangesOf web carried with ⟨url, after, inside, same, _, replied⟩
  exact ⟨url, inside, same, by rw [replied]⟩

theorem of_mem_exchangesOf {config : Config} {incoming : Incoming} {state : σ} {exchange : Exchange}
    (web : config.target.isHttp = true) (carried : exchange ∈ config.exchangesOf incoming state) :
    ∃ url, config.destination? incoming.path incoming.query = some url ∧
      exchange.call = incoming.callTo url := by
  rcases forward_of_mem_exchangesOf web carried with ⟨url, inside, same, _⟩
  exact ⟨url, inside, same⟩

/-! ## Replies -/

theorem ownReply_of_ne {text : String} (some : text.isEmpty = false) (status : Nat) :
    ownReply status text =
      { status := status, headers := [("content-type", Utf8.bytes "text/plain; charset=utf-8")],
        body := Http.bodyOf text } := by
  rw [ownReply, some, if_neg Bool.false_ne_true]

theorem relay_of_error {response : Response} {fault : BodyFault} (broken : response.body = .error fault) :
    relay response = ownReply 502 "upstream body unreadable" := by
  rw [relay, broken]

theorem relay_of_ok {response : Response} {body : ByteArray} (whole : response.body = .ok body) :
    relay response =
      { status := response.status, headers := endToEnd response.headers, body := body } := by
  rw [relay, whole]

/-- What becomes of a request. Outside of the area it is not found, whatever its body is; a body that
breaks off or is too long is refused; in neither case is anything sent. For any other request there
is one attempt to send it on, by its own method and with its own body, which fails before anything is
carried only for a URL that cannot be a target. If the attempt fails, or if what comes back breaks off, the
gateway says so in a reply of its own; otherwise it hands on status and body, whichever status it is. -/
theorem forward_outcome {listen : Listen} {area target : String} {config : Config}
    (made : make listen area target = .ok config) (incoming : Incoming) (state : σ) :
    (config.destination? incoming.path incoming.query = none →
      config.forward incoming state = ({ status := 404, headers := [], body := .empty }, state) ∧
        config.exchangesOf incoming state = []) ∧
    ∀ url, config.destination? incoming.path incoming.query = some url →
      (incoming.breaksOff = true ∨ 16 * 1024 * 1024 < incoming.body.size →
        config.forward incoming state = ({ status := 413, headers := [], body := .empty }, state) ∧
          config.exchangesOf incoming state = []) ∧
      (incoming.breaksOff = false → incoming.body.size ≤ 16 * 1024 * 1024 →
        ∃ call outcome reply after,
          call.method = incoming.method ∧ call.body = incoming.body ∧
          { call.url with username := [], password := none } = { url with username := [], password := none } ∧
          (Http.FitsTarget call.url →
            Http.Carrier.carry call.url call state = (outcome, after) ∧
              config.exchangesOf incoming state = [⟨call, outcome⟩]) ∧
          (¬Http.FitsTarget call.url →
            outcome = .error (.badTarget call.url.text) ∧ after = state ∧
              config.exchangesOf incoming state = []) ∧
          config.forward incoming state = (reply, after) ∧
          (∀ fault, outcome = .error fault →
            reply = {
              status := 502
              headers := [("content-type", Utf8.bytes "text/plain; charset=utf-8")]
              body := "upstream unavailable".toUTF8 }) ∧
          (∀ response fault, outcome = .ok response → response.body = .error fault →
            reply = {
              status := 502
              headers := [("content-type", Utf8.bytes "text/plain; charset=utf-8")]
              body := "upstream body unreadable".toUTF8 }) ∧
          ∀ response body, outcome = .ok response → response.body = .ok body →
            reply.status = response.status ∧ reply.body = body) := by
  have web := (make_target made).2.1
  constructor
  · intro outside
    exact forward_of_refused (route_of_none outside) state
  · intro url inside
    have routed := route_of_some inside
    rw [bodyLimit] at routed
    constructor
    · intro unreadable
      rw [if_pos unreadable] at routed
      exact forward_of_refused routed state
    · intro whole fits
      rw [if_neg (by simp [whole, fits])] at routed
      have written := Http.isWritten_ofUrl (isWritten_destination made inside) incoming.method
      have sendable : Http.isTarget (incoming.callTo url).url = true ↔
          Http.FitsTarget (incoming.callTo url).url := Http.isTarget_iff written
      have sent := send_callTo incoming web inside state
      rcases attempt : Http.send state none (incoming.callTo url) with ⟨outcome, after⟩
      rw [attempt] at sent
      have exchanges := exchangesOf_of_sent web inside routed attempt
      refine ⟨incoming.callTo url, outcome, _, after, incoming.callTo_method url, rfl,
        incoming.withoutCredentials_callTo url, fun fitting => ?_, fun unfit => ?_,
        forward_of_sent routed attempt, ?_, ?_, ?_⟩
      · rw [if_pos (sendable.mpr fitting)] at sent exchanges
        exact ⟨sent.symm, exchanges⟩
      · rw [if_neg (mt sendable.mp unfit)] at sent exchanges
        cases sent
        exact ⟨rfl, rfl, exchanges⟩
      · intro fault failed
        rw [failed, replyTo]
        exact ownReply_of_ne (by decide) 502
      · intro response fault answered broken
        rw [answered, replyTo, relay_of_error broken]
        exact ownReply_of_ne (by decide) 502
      · intro response body answered whole
        rw [answered, replyTo, relay_of_ok whole]
        exact ⟨rfl, rfl⟩

def storing : Incoming where
  method := "POST"
  path := "/manager/v1/settings".toList
  body := Http.bodyOf "null"

def movedNode : Http.Network where
  reachable := true
  answers := [.reply 302 "" [("location", Utf8.bytes "/elsewhere")] [] false]

theorem forward_outcome_of_moved :
    (∃ exchange, nodeGateway.exchangesOf storing movedNode = [exchange] ∧
      exchange.call.method = "POST" ∧ exchange.call.body = "null".toUTF8) ∧
    (nodeGateway.forward storing movedNode).1.status = 302 := by
  have inside : nodeGateway.destination? storing.path storing.query =
      some { nodeGateway.target with
        path := .segments ["node-a".toList, "manager".toList, "v1".toList, "settings".toList]
        query := none } := by decide +kernel
  have small : storing.body.size ≤ 16 * 1024 * 1024 := by decide +kernel
  rcases ((forward_outcome make_nodeGateway storing movedNode).2 _ inside).2 rfl small with
    ⟨call, outcome, _, _, method, body, _, carried, refused, _⟩
  have moved : (nodeGateway.exchangesOf storing movedNode).length = 1 := by decide +kernel
  have fits : Http.FitsTarget call.url := by
    by_contra unfit
    rw [(refused unfit).2.2] at moved
    cases moved
  exact ⟨⟨⟨call, outcome⟩, (carried fits).2, method, body⟩, by decide +kernel⟩

end Config

end NodeConsole.Gateway
