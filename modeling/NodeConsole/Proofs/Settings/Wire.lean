import NodeConsole.Proofs.Http.Calls
import NodeConsole.Proofs.Http.Received
import NodeConsole.Proofs.Http.Targets
import NodeConsole.Proofs.Settings.Requests
import NodeConsole.Proofs.Url.Joining
/-!
What an endpoint puts on the wire. What is wrong with a call is found in a fixed order, and before
anything is sent; otherwise the first request is the one asked for, and every request of the call carries
the identifier.
-/

namespace NodeConsole

theorem Http.hasHost_of_exists {url : Url} (present : ∃ host, url.host = some host ∧ host ≠ .named []) :
    hasHost url = true := by
  rcases present with ⟨host, isHost, notEmpty⟩
  rw [hasHost, isHost]
  simpa using notEmpty

theorem Http.Call.body_ofUrl (method : String) (url : Url) :
    (Http.Call.ofUrl method url).body = .empty := by
  rw [ofUrl]
  split <;> rfl

namespace Settings.Endpoint

open NodeConsole.Http (Network Recorded Exchange Request)

variable {σ : Type} [Http.Carrier σ]

/-! ## Identifiers -/

theorem foldl_withRequestId (ids : List String) (endpoint : Endpoint) :
    ids.foldl withRequestId endpoint =
      { endpoint with requestId := ids.getLast?.or endpoint.requestId } := by
  induction ids generalizing endpoint with
  | nil => rfl
  | cons id more induction =>
      rw [List.foldl_cons, induction, withRequestId, List.getLast?_cons]
      cases more.getLast? <;> rfl

def Unsendable (id : String) : Prop :=
  ∃ byte ∈ Utf8.bytes id, byte.toNat < 0x20 ∧ byte ≠ 0x09 ∨ byte = 0x7F

theorem isValueByte_eq_false_iff {byte : UInt8} :
    Http.isValueByte byte = false ↔ byte.toNat < 0x20 ∧ byte ≠ 0x09 ∨ byte = 0x7F := by
  rw [Http.isValueByte, Bool.or_eq_false_iff, Bool.and_eq_false_iff, beq_eq_false_iff_ne,
    decide_eq_false_iff_not, bne_eq_false_iff_eq, Nat.not_le]
  constructor
  · intro refused
    rcases refused.2 with low | delete
    · exact .inl ⟨low, refused.1⟩
    · exact .inr delete
  · intro refused
    rcases refused with ⟨low, notTab⟩ | rfl
    · exact ⟨notTab, .inl low⟩
    · exact ⟨by decide, .inr rfl⟩

theorem isSendable_eq_false_iff (endpoint : Endpoint) :
    endpoint.isSendable = false ↔ ∃ id, endpoint.requestId = some id ∧ Unsendable id := by
  rw [isSendable, idHeaders]
  cases endpoint.requestId with
  | none => simp
  | some id => simp [Unsendable, ← isValueByte_eq_false_iff]

/-! ## Calls -/

theorem values_idHeaders (endpoint : Endpoint) :
    endpoint.idHeaders.values requestIdHeader = endpoint.requestId.toList.map Utf8.bytes := by
  rw [idHeaders]
  cases endpoint.requestId <;> simp [Http.Headers.values]

theorem values_call_id (endpoint : Endpoint) (url : Url) (document : Option Json) :
    (endpoint.call url document).headers.values requestIdHeader =
      endpoint.requestId.toList.map Utf8.bytes := by
  have ofUrl (method : String) :
      (Http.Call.ofUrl method url).headers.values requestIdHeader = [] :=
    Http.Call.values_ofUrl_other (by decide) method url
  cases document with
  | none =>
      rw [call, Http.Headers.values_append, ofUrl, values_idHeaders, List.nil_append]
  | some document =>
      have none : Http.Headers.values [("content-type", Utf8.bytes "application/json")]
          requestIdHeader = [] := by decide +kernel
      rw [call, Http.Headers.values_append, Http.Headers.values_append, ofUrl, values_idHeaders, none,
        List.nil_append, List.append_nil]

def Carries (request : Request) : Option Json → Prop
  | none =>
    request.method = "GET" ∧ request.body = .empty ∧ request.headers.values "content-type" = []
  | some document =>
    request.method = "POST" ∧ request.body = document.compact.toUTF8 ∧
      request.headers.values "content-type" = [Utf8.bytes "application/json"]

theorem carries_call (endpoint : Endpoint) (url : Url) (document : Option Json) :
    Carries (endpoint.call url document).request document := by
  have ofUrl (method : String) : (Http.Call.ofUrl method url).headers.values "content-type" = [] :=
    Http.Call.values_ofUrl_other (by decide) method url
  have noId : endpoint.idHeaders.values "content-type" = [] := by
    rw [idHeaders]
    cases endpoint.requestId <;> simp [Http.Headers.values, requestIdHeader]
  have told : (endpoint.call url document).request.headers.values "content-type" =
      (endpoint.call url document).headers.values "content-type" :=
    Http.Call.values_request_other (by decide) _
  cases document with
  | none =>
      refine ⟨Http.Call.ofUrl_method "GET" url, Http.Call.body_ofUrl "GET" url, ?_⟩
      rw [told, call, Http.Headers.values_append, ofUrl, noId, List.nil_append]
  | some document =>
      refine ⟨Http.Call.ofUrl_method "POST" url, rfl, ?_⟩
      rw [told, call, Http.Headers.values_append, Http.Headers.values_append, ofUrl, noId]
      decide +kernel

theorem withoutCredentials_call (endpoint : Endpoint) (url : Url) (document : Option Json) :
    Http.withoutCredentials (endpoint.call url document).url = Http.withoutCredentials url := by
  have ofUrl (method : String) := Http.Call.withoutCredentials_ofUrl method url
  cases document with
  | none => exact ofUrl "GET"
  | some document => exact ofUrl "POST"

theorem scheme_call (endpoint : Endpoint) (url : Url) (document : Option Json) :
    (endpoint.call url document).url.scheme = url.scheme := by
  injection endpoint.withoutCredentials_call url document

theorem isHttp_call {endpoint : Endpoint} {url : Url} {document : Option Json}
    (plain : url.scheme = "http".toList) : (endpoint.call url document).url.isHttp = true := by
  rw [Url.isHttp, scheme_call, plain]
  decide

theorem isTarget_call (endpoint : Endpoint) {text : String} {url : Url}
    (parsed : Url.parse text = .ok url) (plain : url.scheme = "http".toList)
    (document : Option Json) :
    Http.isTarget (endpoint.call url document).url = true ↔
      Http.FitsTarget (endpoint.call url document).url := by
  have web : (Url.isSpecial url.scheme && !Url.isFileScheme url.scheme) = true := by
    rw [plain]
    decide
  have ofUrl (method : String) : (Http.Call.ofUrl method url).url.IsWritten :=
    Http.isWritten_ofUrl (Url.isWritten_ofChars parsed web) method
  apply Http.isTarget_iff
  cases document with
  | none => exact ofUrl "GET"
  | some document => exact ofUrl "POST"

/-! ## Attempts -/

def exchangesAt (endpoint : Endpoint) (path : String) (document : Option Json) (state : σ) :
    List Exchange :=
  (endpoint.perform path document (⟨state, []⟩ : Recorded σ)).2.exchanges

theorem plain_urlFor {endpoint : Endpoint} {base url : Url}
    (parsed : Url.parse endpoint.baseUrl = .ok base) (plain : base.scheme = "http".toList)
    {path : String} (found : Url.parse (endpoint.urlText path) = .ok url) :
    url.scheme = "http".toList := by
  rw [Url.parse, urlText, String.toList_ofList] at found
  rw [Url.scheme_below parsed found, plain]

theorem hasHost_of_plain {text : String} {url : Url} (parsed : Url.parse text = .ok url)
    (plain : url.scheme = "http".toList) : Http.hasHost url = true := by
  apply Http.hasHost_of_exists
  apply Url.exists_host parsed
  rw [plain]
  decide

theorem perform_of_error {endpoint : Endpoint} {path : String} {reason : Url.Error}
    (failed : Url.parse (endpoint.urlText path) = .error reason) (document : Option Json) (state : σ) :
    endpoint.perform path document state =
      (.error (.badUrl (endpoint.urlText path) reason), state) := by
  rw [perform_eq, urlFor, failed]
  rfl

theorem perform_of_ok {endpoint : Endpoint} {path : String} {url : Url}
    (found : Url.parse (endpoint.urlText path) = .ok url) (document : Option Json) (state : σ) :
    endpoint.perform path document state = (endpoint.attempt url document state).map conclude id := by
  rw [perform_eq, urlFor, found]
  rfl

theorem attempt_of_unsendable {endpoint : Endpoint} {url : Url} (host : Http.hasHost url = true)
    (unsendable : endpoint.isSendable = false) (document : Option Json) (state : σ) :
    endpoint.attempt url document state = (.error .badHeaderValue, state) := by
  rw [attempt, if_neg (by simp [host]), if_pos (by simp [unsendable])]

theorem attempt_of_sendable {endpoint : Endpoint} {url : Url} (host : Http.hasHost url = true)
    (sendable : endpoint.isSendable = true) (document : Option Json) (state : σ) :
    endpoint.attempt url document state =
      Http.send state Http.usualPatience (endpoint.call url document) := by
  rw [attempt, if_neg (by simp [host]), if_neg (by simp [sendable])]

theorem exchangesAt_of_sendable {endpoint : Endpoint} {path : String} {url : Url}
    (found : Url.parse (endpoint.urlText path) = .ok url) (host : Http.hasHost url = true)
    (sendable : endpoint.isSendable = true) (document : Option Json) (state : σ) :
    endpoint.exchangesAt path document state =
      (Http.send (⟨state, []⟩ : Recorded σ) Http.usualPatience
        (endpoint.call url document)).2.exchanges := by
  rw [exchangesAt, perform_of_ok found, attempt_of_sendable host sendable]
  rfl

/-! ## On the wire -/

/-- What the other side receives of a call for a path that nothing is wrong with: first the request that
was asked for, and the identifier on every request but those for tunnels. -/
structure IsDelivered (endpoint : Endpoint) (path : String) (document : Option Json) (url : Url)
    (id : Option String) (network : Network) : Prop where
  received : (endpoint.perform path document network).2.received = network.received ++
    (endpoint.exchangesAt path document network).map
      fun exchange => Network.asRead exchange.call.opening
  first : ∃ first, (endpoint.exchangesAt path document network).head? = some first ∧
    { first.call.url with username := [], password := none } = { url with username := [], password := none } ∧
    first.call.opening.target = { first.call.url with fragment := none }.text ∧
    Carries first.call.opening document
  identified : ∀ exchange ∈ endpoint.exchangesAt path document network,
    exchange.call.url.scheme ≠ "https".toList →
      exchange.call.opening.headers.values requestIdHeader = id.toList.map Utf8.bytes

theorem opening_of_plain {call : Http.Call} (plain : call.url.scheme ≠ "https".toList) :
    call.opening = call.request := by
  rw [Http.Call.opening, if_neg (by simpa using plain)]

theorem isDelivered {endpoint : Endpoint} {path : String} {url : Url}
    (found : Url.parse (endpoint.urlText path) = .ok url) (plain : url.scheme = "http".toList)
    (sendable : endpoint.isSendable = true) (document : Option Json)
    (fits : Http.FitsTarget (endpoint.call url document).url) {network : Network}
    (reachable : network.reachable = true) :
    endpoint.IsDelivered path document url endpoint.requestId network := by
  have host := hasHost_of_plain found plain
  have exchanges := exchangesAt_of_sendable found host sendable document network
  have notEncrypted : (endpoint.call url document).url.scheme ≠ "https".toList := by
    rw [scheme_call, plain]
    decide
  refine ⟨?_, ?_, fun exchange member exchangePlain => ?_⟩
  · rw [perform_of_ok found, attempt_of_sendable host sendable, exchanges]
    exact Http.received_send reachable Http.usualPatience (endpoint.call url document)
  · have sent := (endpoint.isTarget_call found plain document).mpr fits
    rcases Http.exists_first_exchange (isHttp_call plain) sent network Http.usualPatience with
      ⟨outcome, more, first⟩
    refine ⟨⟨endpoint.call url document, outcome⟩, by rw [exchanges, first, List.head?_cons],
      endpoint.withoutCredentials_call url document, ?_, ?_⟩
    · rw [opening_of_plain notEncrypted]
      have method : (endpoint.call url document).method ≠ "CONNECT" := by
        rw [call_method]
        split <;> decide
      exact if_neg method
    · rw [opening_of_plain notEncrypted]
      exact endpoint.carries_call url document
  · rw [exchanges] at member
    rw [opening_of_plain exchangePlain, Http.Call.values_request_other (by decide),
      Http.values_of_mem_exchanges (by decide) member, values_call_id]

/-- What a call for a path comes to, given a base URL for plain requests. A URL that cannot be read is
found before an identifier that cannot be sent, and that before a URL that cannot be the target of a
request; in none of these cases anything is sent. -/
theorem perform_on_wire {baseUrl : String} {base : Url} (parsed : Url.parse baseUrl = .ok base)
    (plain : base.scheme = "http".toList) (ids : List String) (path : String)
    (document : Option Json) (network : Network) :
    let endpoint := ids.foldl withRequestId ⟨baseUrl, none⟩
    (∀ reason, Url.parse (endpoint.urlText path) = .error reason →
      endpoint.perform path document network =
        (.error (.badUrl (endpoint.urlText path) reason), network)) ∧
    ∀ url, Url.parse (endpoint.urlText path) = .ok url →
      ((∃ id, ids.getLast? = some id ∧ Unsendable id) →
        endpoint.perform path document network = (.error (.unanswered .badHeaderValue), network)) ∧
      ((∀ id, ids.getLast? = some id → ¬Unsendable id) →
        (¬Http.FitsTarget (endpoint.call url document).url →
          endpoint.perform path document network =
            (.error (.unanswered (.badTarget (endpoint.call url document).url.text)), network)) ∧
        (Http.FitsTarget (endpoint.call url document).url → network.reachable = true →
          endpoint.IsDelivered path document url ids.getLast? network)) := by
  intro endpoint
  have isEndpoint : endpoint = ⟨baseUrl, ids.getLast?⟩ := by
    have folded := foldl_withRequestId ids ⟨baseUrl, none⟩
    rw [Option.or_none] at folded
    exact folded
  clear_value endpoint
  subst isEndpoint
  refine ⟨fun reason failed => perform_of_error failed document network, fun url found => ?_⟩
  have urlPlain := @plain_urlFor ⟨baseUrl, ids.getLast?⟩ _ _ parsed plain _ found
  have host := hasHost_of_plain found urlPlain
  refine ⟨fun unsendable => ?_, fun allowed => ?_⟩
  · have refused := (isSendable_eq_false_iff ⟨baseUrl, ids.getLast?⟩).mpr unsendable
    rw [perform_of_ok found, attempt_of_unsendable host refused]
    rfl
  · have sendable : isSendable ⟨baseUrl, ids.getLast?⟩ = true := by
      by_contra refused
      rw [Bool.not_eq_true, isSendable_eq_false_iff] at refused
      rcases refused with ⟨id, given, unsendable⟩
      exact allowed id given unsendable
    refine ⟨fun unfit => ?_, fun fits reachable => ?_⟩
    · have refused : Http.isTarget (call ⟨baseUrl, ids.getLast?⟩ url document).url = false := by
        rw [← Bool.not_eq_true, isTarget_call _ found urlPlain]
        exact unfit
      rw [perform_of_ok found, attempt_of_sendable host sendable,
        Http.send_of_not_isTarget (isHttp_call urlPlain) refused]
      rfl
    · exact isDelivered found urlPlain sendable document fits reachable

theorem perform_on_wire_elsewhere :
    let endpoint := ["first", "trace-1"].foldl withRequestId ⟨"http://localhost:7412", none⟩
    (endpoint.exchangesAt "/settings" (some .null) moving).map (·.call.url.text) =
        ["http://localhost:7412/settings", "http://elsewhere/x"] ∧
      ∀ exchange ∈ endpoint.exchangesAt "/settings" (some .null) moving,
        exchange.call.url.scheme ≠ "https".toList →
          exchange.call.opening.headers.values requestIdHeader = [Utf8.bytes "trace-1"] := by
  have parsed : Url.parse "http://localhost:7412" =
      .ok { scheme := "http".toList, host := some (.named "localhost".toList), port := some 7412,
            path := .segments [[]] } := by
    decide +kernel
  have found : Url.parse (urlText (["first", "trace-1"].foldl withRequestId
        ⟨"http://localhost:7412", none⟩) "/settings") =
      .ok { scheme := "http".toList, host := some (.named "localhost".toList), port := some 7412,
            path := .segments ["settings".toList] } := by
    decide +kernel
  have allowed : ∀ id, ["first", "trace-1"].getLast? = some id → ¬Unsendable id := by
    intro id given
    cases given
    rw [Unsendable]
    decide +kernel
  have whole := perform_on_wire parsed rfl ["first", "trace-1"] "/settings" (some .null) moving
  have fits := (isTarget_call (["first", "trace-1"].foldl withRequestId
    ⟨"http://localhost:7412", none⟩) found rfl (some .null)).mp (by decide +kernel)
  have delivered := ((whole.2 _ found).2 allowed).2 fits rfl
  exact ⟨by decide +kernel, delivered.identified⟩

/-! ## Paths that are too long -/

def letters (n : Nat) : List Char :=
  '/' :: List.replicate n 'a'

theorem length_letters (n : Nat) : (letters n).length = n + 1 := by
  rw [letters, List.length_cons, List.length_replicate]

theorem isPlainPath_letters (n : Nat) : Url.IsPlainPath (letters (n + 1)) where
  rooted := rfl
  unescaped := by
    rw [letters, List.forall_mem_cons]
    refine ⟨by decide, fun c member => ?_⟩
    rw [List.eq_of_mem_replicate member]
    decide
  noBackslash := by
    rw [letters, List.mem_cons, not_or]
    refine ⟨by decide, fun member => ?_⟩
    exact absurd (List.eq_of_mem_replicate member) (by decide)
  undotted := by
    have noSlash : ∀ segment ∈ [List.replicate (n + 1) 'a'], '/' ∉ segment := by
      rw [List.forall_mem_singleton]
      exact fun slash => absurd (List.eq_of_mem_replicate slash) (by decide)
    have cut : (letters (n + 1)).splitOn '/' = [[], List.replicate (n + 1) 'a'] := by
      have joined := Url.splitOn_append_joinSegments List.not_mem_nil noSlash
      rw [Url.joinSegments, List.flatMap_singleton] at joined
      exact joined
    rw [cut, List.forall_mem_cons, List.forall_mem_singleton]
    refine ⟨Url.not_isDotSegment_nil, fun dots => ?_⟩
    -- A dot segment starts with a dot or with a percent sign.
    have first := Url.head?_of_isDotSegment dots
    rw [List.replicate_succ, List.head?_cons] at first
    exact absurd first (by decide)

def plainBase : Url where
  scheme := "http".toList
  host := some (.named "localhost".toList)
  port := some 7412
  path := .segments [[]]

theorem urlFor_letters (n : Nat) :
    ∃ joined : Url.Path, joined.chars = letters (n + 1) ∧
      Url.parse (urlText ⟨"http://localhost:7412", none⟩ (String.ofList (letters (n + 1)))) =
        .ok { plainBase with path := joined } := by
  have parsed : Url.ofChars "http://localhost:7412".toList = .ok plainBase := by decide +kernel
  have plain : Url.IsPlainText "http://localhost:7412".toList := by decide +kernel
  rcases Url.ofChars_below_of_plain plain (isPlainPath_letters n) parsed (by decide) with
    ⟨joined, chars, reads⟩
  refine ⟨joined, chars, ?_⟩
  have read := reads 0
  rw [List.replicate_zero, List.append_nil] at read
  have path : (String.ofList (letters (n + 1))).toList = letters (n + 1) := String.toList_ofList
  rw [Url.parse, urlText, String.toList_ofList, path]
  exact read

theorem not_fitsTarget_of_long {url : Url} (long : 65534 < url.path.chars.length) : ¬Http.FitsTarget url := by
  intro fits
  have bytes := Utf8.length_le_length_bytes url.text
  have whole : url.path.chars.length ≤ url.text.toList.length := by
    rw [Url.text, String.toList_ofList, Url.chars]
    simp only [List.length_append]
    omega
  have short := fits.short
  omega

/-- Nothing is sent for a path that is too long, though there is nothing wrong with its URL. -/
theorem long_path_not_sent :
    ∃ url, Url.parse (urlText ⟨"http://localhost:7412", none⟩ (String.ofList (letters 65535))) = .ok url ∧
      url.path.chars = letters 65535 ∧
      perform ⟨"http://localhost:7412", none⟩ (String.ofList (letters 65535)) none
          ({ reachable := true } : Network) =
        (.error (.unanswered (.badTarget url.text)), { reachable := true }) := by
  rcases urlFor_letters 65534 with ⟨joined, chars, found⟩
  refine ⟨_, found, chars, ?_⟩
  have unfit : ¬Http.FitsTarget { plainBase with path := joined } := by
    apply not_fitsTarget_of_long
    rw [chars, length_letters]
    decide
  have host : Http.hasHost { plainBase with path := joined } = true := rfl
  have same : (call ⟨"http://localhost:7412", none⟩ { plainBase with path := joined } none).url =
      { plainBase with path := joined } := rfl
  have refused : Http.isTarget (call ⟨"http://localhost:7412", none⟩ { plainBase with path := joined }
      none).url = false := by
    rw [← Bool.not_eq_true, isTarget_call _ found rfl, same]
    exact unfit
  rw [perform_of_ok found, attempt_of_sendable host rfl,
    Http.send_of_not_isTarget (isHttp_call rfl) refused, same]
  rfl

end Settings.Endpoint

end NodeConsole
