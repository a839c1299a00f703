import NodeConsole.Proofs.Console.Acknowledgement
import NodeConsole.Proofs.Settings.BaseUrl
/-!
The requests that an order of the settings leads to. The first one goes to the origin of the base URL;
it is the only one unless its reply sends it on.
-/

namespace NodeConsole

def Url.SameOrigin (left right : Url) : Prop :=
  left.scheme = right.scheme ∧ left.host = right.host ∧ left.port = right.port

instance (left right : Url) : Decidable (left.SameOrigin right) :=
  inferInstanceAs (Decidable (_ ∧ _))

theorem Http.Call.sameOrigin_ofUrl (method : String) (url : Url) :
    (Http.Call.ofUrl method url).url.SameOrigin url := by
  rw [Http.Call.ofUrl]
  split <;> exact ⟨rfl, rfl, rfl⟩

namespace Settings

variable {σ : Type} [Http.Carrier σ]

namespace Endpoint

def exchangesOf (endpoint : Endpoint) (order : Order) (state : σ) : List Http.Exchange :=
  (endpoint.transport.perform order (⟨state, []⟩ : Http.Recorded σ)).2.exchanges

theorem sameOrigin_call (endpoint : Endpoint) (url : Url) (document : Option Json) :
    (endpoint.call url document).url.SameOrigin url := by
  have sent (method : String) := Http.Call.sameOrigin_ofUrl method url
  cases document with
  | none => exact sent "GET"
  | some document => exact sent "POST"

theorem exchangesOf_cases (endpoint : Endpoint) (order : Order) (state : σ) :
    endpoint.exchangesOf order state = [] ∨
      ∃ url outcome more, endpoint.urlFor settingsPath = .ok url ∧
        endpoint.exchangesOf order state = ⟨endpoint.call url order.document?, outcome⟩ :: more ∧
        more.length ≤ 10 ∧
        (more = [] ↔ ∀ response, outcome = .ok response →
          ¬response.SendsOn (endpoint.call url order.document?).url) := by
  rw [exchangesOf, transport_perform, perform_eq]
  cases found : endpoint.urlFor settingsPath with
  | error error => exact .inl rfl
  | ok url =>
      dsimp only
      rw [attempt]
      split
      · exact .inl rfl
      · split
        · exact .inl rfl
        · rcases Http.send_exchanges state 9 (endpoint.call url order.document?) with
            nothing | ⟨outcome, more, exchanges, bounded, alone⟩
          · exact .inl nothing
          · exact .inr ⟨url, outcome, more, rfl, exchanges, bounded, alone⟩

/-- A URL of the settings has the origin of the base URL. -/
theorem sameOrigin_urlFor {endpoint : Endpoint} {base url : Url}
    (parsed : Url.parse endpoint.baseUrl = .ok base) (plain : base.scheme = "http".toList)
    (found : endpoint.urlFor settingsPath = .ok url) : url.SameOrigin base := by
  rw [urlFor_settingsPath] at found
  have web : (Url.isSpecial base.scheme && !Url.isFileScheme base.scheme) = true := by
    rw [plain]
    decide
  rcases Url.ofChars_below_authority isPlace_settings parsed web (of_mapError_eq_ok found) with
    ⟨scheme, _, _, host, port⟩
  exact ⟨scheme, host, port⟩

/-- The requests of an order whose base URL is one for plain requests. The first goes to the origin of
the base URL, and at most ten follow; it is the only one exactly if its reply, if it has one, does not
send it on. -/
theorem requests_of_order {endpoint : Endpoint} {base : Url}
    (parsed : Url.parse endpoint.baseUrl = .ok base) (plain : base.scheme = "http".toList)
    (order : Order) (state : σ) :
    (∀ first, (endpoint.exchangesOf order state).head? = some first →
        first.call.url.SameOrigin base) ∧
      (endpoint.exchangesOf order state).length ≤ 11 ∧
      (((endpoint.exchangesOf order state).length ≤ 1 ∧
          ∀ exchange ∈ endpoint.exchangesOf order state, exchange.call.url.SameOrigin base) ↔
        ∀ first, (endpoint.exchangesOf order state).head? = some first →
          ∀ response, first.outcome = .ok response → ¬response.SendsOn first.call.url) := by
  rcases endpoint.exchangesOf_cases order state with
    none | ⟨url, outcome, more, found, exchanges, bounded, alone⟩
  · rw [none]
    simp
  · rw [exchanges]
    have there := sameOrigin_urlFor parsed plain found
    have sent := endpoint.sameOrigin_call url order.document?
    have same : (endpoint.call url order.document?).url.SameOrigin base :=
      ⟨sent.1.trans there.1, sent.2.1.trans there.2.1, sent.2.2.trans there.2.2⟩
    simp only [List.head?_cons, Option.some.injEq, forall_eq']
    refine ⟨same, ?_, ?_⟩
    · rw [List.length_cons]
      omega
    · rw [← alone]
      constructor
      · rintro ⟨one, _⟩
        simpa using one
      · intro none
        rw [none]
        simpa using same

def steady : Http.Network where
  reachable := true

theorem request_of_fetch_from_steady :
    (exchangesOf ⟨"http://localhost:7412", none⟩ .fetch steady).length ≤ 1 := by
  have parsed : Url.parse "http://localhost:7412" =
      .ok { scheme := "http".toList, host := some (.named "localhost".toList), port := some 7412,
            path := .segments [[]] } := by
    decide +kernel
  have answered : (exchangesOf ⟨"http://localhost:7412", none⟩ .fetch steady).map Console.outline =
      [("GET", 0, some 200)] := by
    decide +kernel
  have requests := @requests_of_order _ _ ⟨"http://localhost:7412", none⟩ _ parsed rfl .fetch steady
  refine (requests.2.2.mpr ?_).1
  intro first head response found sends
  have glance := congrArg List.head? answered
  rw [List.head?_map, head, Option.map_some, List.head?_cons, Option.some.injEq] at glance
  rcases Console.answered_of_outline glance with ⟨answer, given, status⟩
  cases found.symm.trans given
  have moves := sends.1
  rw [status] at moves
  exact absurd moves (by decide)

def moving : Http.Network where
  reachable := true
  answers := [.reply 302 "Found" [("location", Utf8.bytes "http://elsewhere/x")] [] false]

theorem requests_of_fetch_from_moving :
    ((transport ⟨"http://localhost:7412", none⟩).perform .fetch moving).2.received.map
        (fun request => (request.method, request.target)) =
      [("GET", "http://localhost:7412/settings"), ("GET", "http://elsewhere/x")] := by
  decide +kernel

end Endpoint

end Settings

end NodeConsole
