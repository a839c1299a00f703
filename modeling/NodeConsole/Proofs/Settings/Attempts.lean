import NodeConsole.Proofs.Http.Exchanges
import NodeConsole.Settings.Endpoint
/-!
How a call for the settings is performed: one attempt to get a response, and what is concluded from
it. Neither depends on whether the exchanges are recorded.
-/

namespace NodeConsole.Settings

variable {σ : Type} [Http.Carrier σ]

def Order.document? : Order → Option Json
  | .fetch => none
  | .update document => some document

namespace Endpoint

def attempt (endpoint : Endpoint) (url : Url) (document : Option Json) (state : σ) :
    Except Http.Fault Http.Response × σ :=
  if !Http.hasHost url then (.error (.badScheme url.text), state)
  else if !endpoint.isSendable then (.error .badHeaderValue, state)
  else Http.send state Http.usualPatience (endpoint.call url document)

def conclude : Except Http.Fault Http.Response → Result
  | .error fault => .error (.unanswered fault)
  | .ok response => resultOf response

theorem perform_eq (endpoint : Endpoint) (path : String) (document : Option Json) (state : σ) :
    endpoint.perform path document state =
      match endpoint.urlFor path with
      | .error error => (.error error, state)
      | .ok url => (endpoint.attempt url document state).map conclude id := by
  rw [perform]
  cases endpoint.urlFor path with
  | error error => rfl
  | ok url =>
      dsimp only
      rw [attempt]
      split
      · rfl
      · split
        · rfl
        · rcases Http.send state Http.usualPatience (endpoint.call url document) with
            ⟨fault | response, after⟩ <;> rfl

theorem transport_perform (endpoint : Endpoint) (order : Order) (state : σ) :
    endpoint.transport.perform order state = endpoint.perform settingsPath order.document? state := by
  cases order with
  | fetch => simp only [Transport.perform, transport, Order.document?]
  | update document => simp only [Transport.perform, transport, Order.document?]

theorem call_method (endpoint : Endpoint) (url : Url) (document : Option Json) :
    (endpoint.call url document).method = if document.isSome then "POST" else "GET" := by
  cases document with
  | none => exact Http.Call.ofUrl_method "GET" url
  | some document => exact Http.Call.ofUrl_method "POST" url

theorem call_method_of_document (endpoint : Endpoint) (url : Url) (document : Json) :
    (endpoint.call url (some document)).method = "POST" :=
  endpoint.call_method url (some document)

/-! ## Recording -/

theorem attempt_recorded (endpoint : Endpoint) (url : Url) (document : Option Json)
    (recorded : Http.Recorded σ) :
    (endpoint.attempt url document recorded).map id Http.Recorded.state =
      endpoint.attempt url document recorded.state := by
  rw [attempt, attempt]
  split
  · rfl
  · split
    · rfl
    · exact Http.send_recorded ..

theorem perform_recorded (endpoint : Endpoint) (path : String) (document : Option Json)
    (recorded : Http.Recorded σ) :
    (endpoint.perform path document recorded).map id Http.Recorded.state =
      endpoint.perform path document recorded.state := by
  rw [perform_eq, perform_eq]
  cases endpoint.urlFor path with
  | error error => rfl
  | ok url =>
      dsimp only
      rw [← attempt_recorded]
      rfl

theorem transport_perform_recorded (endpoint : Endpoint) (order : Order)
    (recorded : Http.Recorded σ) :
    (endpoint.transport.perform order recorded).map id Http.Recorded.state =
      endpoint.transport.perform order recorded.state := by
  rw [transport_perform, transport_perform]
  exact perform_recorded ..

/-! ## Results -/

theorem badUrl_of_urlFor {endpoint : Endpoint} {path : String} {reason : CallError}
    (failed : endpoint.urlFor path = .error reason) : ∃ text error, reason = .badUrl text error := by
  rw [urlFor] at failed
  cases parsed : Url.parse (endpoint.urlText path) with
  | error error =>
      rw [parsed] at failed
      cases failed
      exact ⟨_, error, rfl⟩
  | ok url =>
      rw [parsed] at failed
      cases failed

theorem sent_of_attempt {endpoint : Endpoint} {url : Url} {document : Option Json}
    {state after : σ} {response : Http.Response}
    (attempted : endpoint.attempt url document state = (.ok response, after)) :
    Http.send state Http.usualPatience (endpoint.call url document) = (.ok response, after) := by
  rw [attempt] at attempted
  split at attempted
  · cases attempted
  · split at attempted
    · cases attempted
    · exact attempted

/-- A call has a result only where a response could be read as one. -/
theorem perform_eq_ok {endpoint : Endpoint} {path : String} {document : Option Json}
    {state after : σ} {result : Json}
    (performed : endpoint.perform path document state = (.ok result, after)) :
    ∃ url response, endpoint.urlFor path = .ok url ∧
      Http.send state Http.usualPatience (endpoint.call url document) = (.ok response, after) ∧
      resultOf response = .ok result := by
  rw [perform_eq] at performed
  cases found : endpoint.urlFor path with
  | error error =>
      rw [found] at performed
      cases performed
  | ok url =>
      rw [found] at performed
      dsimp only at performed
      rcases attempted : endpoint.attempt url document state with ⟨fault | response, reached⟩
      · rw [attempted] at performed
        cases performed
      · rw [attempted] at performed
        injection performed with read same
        rw [id] at same
        exact ⟨url, response, rfl, same ▸ sent_of_attempt attempted, read⟩

theorem isSuccess_iff {status : Nat} :
    isSuccess status = true ↔ 200 ≤ status ∧ status < 300 := by
  rw [isSuccess, Bool.and_eq_true, decide_eq_true_iff, decide_eq_true_iff]

theorem resultOf_of_error {response : Http.Response} {fault : Http.BodyFault}
    (cut : response.body = .error fault) :
    resultOf response = .error (.unanswered (.badBody fault)) := by
  rw [resultOf, cut]

theorem resultOf_of_ok {response : Http.Response} {body : ByteArray}
    (whole : response.body = .ok body) :
    resultOf response =
      if 200 ≤ response.status ∧ response.status < 300 then
        if (Http.bodyBytes body).all Text.isBlankByte then .ok .null
        else (Json.ofBytes (Http.bodyBytes body)).mapError .undecodable
      else .error (.refused response.status
        (String.ofList (Utf8.decodeLossy (Http.bodyBytes body)))) := by
  rw [resultOf, whole]
  dsimp only
  by_cases accepted : 200 ≤ response.status ∧ response.status < 300
  · rw [if_pos accepted, isSuccess_iff.mpr accepted]
    rfl
  · rw [if_neg accepted, Bool.eq_false_iff.mpr (fun same => accepted (isSuccess_iff.mp same))]
    rfl

theorem isSuccess_of_resultOf_eq_ok {response : Http.Response} {result : Json}
    (read : resultOf response = .ok result) : isSuccess response.status = true := by
  rw [resultOf] at read
  split at read
  · cases read
  · dsimp only at read
    split at read
    · cases read
    · next success => simpa using success

end Endpoint

end NodeConsole.Settings
