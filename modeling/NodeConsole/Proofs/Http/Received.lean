import NodeConsole.Proofs.Http.Exchanges
/-!
What is received of a call that is sent. Where the other side can be reached it receives a request for
each exchange, and a header that is neither private nor about the body stays the same on all of them.
-/

namespace NodeConsole.Http

variable {σ : Type} [Carrier σ]

/-! ## Invariants -/

/-- What following redirections keeps: something that holds of calls wherever they are sent on to, and
of states whenever such a call is carried. -/
structure IsKept (P : Call → Prop) (I : σ → Prop) : Prop where
  redirection : ∀ {call next : Call} {url place : Url} {response : Response},
    call.redirection? url response = some (next, place) → P call → P next
  carried : ∀ {call : Call} (asked previous place : Url) {state : σ}, P call → I state →
    I (Carrier.carry asked (call.sentOn previous place) state).2

theorem IsKept.follow {P : Call → Prop} {I : σ → Prop} (kept : IsKept P I) {asked url : Url}
    {patience : Nat} {call : Call} {outcome : Except Fault Response} {state : σ} (holds : P call)
    (reached : I state) : I (follow asked url patience call (outcome, state)).2 := by
  induction patience generalizing url call outcome state with
  | zero =>
      rcases followed : Http.follow asked url 0 call (outcome, state) with ⟨result, after⟩
      rcases follow_cases followed with ⟨rfl, _⟩ | ⟨_, _, _, _, fewer, _⟩
      · exact reached
      · cases fewer
  | succ patience induction =>
      rcases followed : Http.follow asked url (patience + 1) call (outcome, state) with ⟨result, after⟩
      rcases follow_cases followed with
        ⟨rfl, _⟩ | ⟨fewer, response, next, place, less, _, sends, _, rest⟩
      · exact reached
      · cases less
        have nextHolds := kept.redirection sends holds
        have later : I (Http.follow asked place patience next
            (Carrier.carry asked (next.sentOn url place) state)).2 :=
          induction nextHolds (kept.carried asked url place nextHolds reached)
        rw [rest] at later
        exact later

theorem IsKept.send {P : Call → Prop} {I : σ → Prop} (kept : IsKept P I) {patience : Patience}
    {call : Call} {state : σ} (holds : P call) (reached : I state)
    (first : I (Carrier.carry call.url call state).2) : I (send state patience call).2 := by
  rw [Http.send]
  split
  · exact reached
  · split
    · exact reached
    · cases patience with
      | none => exact first
      | some patience => exact kept.follow holds first

/-! ## Headers -/

theorem Headers.values_put_other {name other : String} (different : other ≠ name) (headers : Headers)
    (value : List UInt8) : (headers.put name value).values other = headers.values other := by
  have none : values [(name, value)] other = [] := by simp [values, Ne.symm different]
  rw [put, values_append, none, List.append_nil, values_without_other different]

def redirectHeaders : List String :=
  "referer" :: (bodyHeaders ++ privateHeaders)

theorem values_redirected? {name : String} (kept : name ∉ redirectHeaders) {call next : Call}
    {status : Nat} (redirected : call.redirected? status = some next) :
    next.headers.values name = call.headers.values name := by
  have notOfBody : name ∉ bodyHeaders := by
    intro member
    exact kept (List.mem_cons_of_mem _ (List.mem_append_left _ member))
  have bodiless (method : String) :
      (call.withoutBody method).headers.values name = call.headers.values name :=
    Headers.values_withoutAll_of_not_mem notOfBody call.headers
  rw [Call.redirected?] at redirected
  split at redirected
  · cases redirected
    split
    · exact bodiless "GET"
    · rfl
  · split at redirected
    · cases redirected
      exact bodiless _
    · split at redirected
      · cases redirected
        rfl
      · cases redirected

theorem values_sentOn {name : String} (kept : name ∉ redirectHeaders) (call : Call)
    (previous place : Url) :
    (call.sentOn previous place).headers.values name = call.headers.values name := by
  rw [redirectHeaders, List.mem_cons, List.mem_append, not_or, not_or] at kept
  rcases kept with ⟨notReferer, _, notPrivate⟩
  have passed : (if sameHost place previous then call.headers
      else call.headers.withoutAll privateHeaders).values name = call.headers.values name := by
    split
    · rfl
    · exact Headers.values_withoutAll_of_not_mem notPrivate call.headers
  rw [Call.sentOn, withReferer]
  dsimp only
  split
  · exact passed
  · rw [Headers.values_put_other notReferer, passed]

/-- A header that no redirection touches is the same wherever the call is sent. -/
theorem values_of_mem_exchanges {name : String} (kept : name ∉ redirectHeaders) {state : σ}
    {patience : Patience} {call : Call} {exchange : Exchange}
    (carried : exchange ∈ (send (⟨state, []⟩ : Recorded σ) patience call).2.exchanges) :
    exchange.call.headers.values name = call.headers.values name := by
  have carry {asked : Url} {next : Call} {recorded : Recorded σ}
      (same : next.headers.values name = call.headers.values name)
      (earlier : ∀ exchange ∈ recorded.exchanges,
        exchange.call.headers.values name = call.headers.values name) :
      ∀ exchange ∈ (Carrier.carry asked next recorded).2.exchanges,
        exchange.call.headers.values name = call.headers.values name := by
    rw [carry_recorded]
    intro exchange member
    rcases List.mem_append.mp member with before | last
    · exact earlier exchange before
    · rw [List.mem_singleton.mp last]
      exact same
  have isKept : IsKept (fun next => next.headers.values name = call.headers.values name)
      (fun recorded : Recorded σ => ∀ exchange ∈ recorded.exchanges,
        exchange.call.headers.values name = call.headers.values name) := {
    redirection := fun sends same =>
      (values_redirected? kept (redirection?_eq_some_iff.mp sends).1).trans same
    carried := fun asked previous place _ same earlier =>
      carry ((values_sentOn kept _ previous place).trans same) earlier }
  have before : ∀ exchange ∈ (⟨state, []⟩ : Recorded σ).exchanges,
      exchange.call.headers.values name = call.headers.values name := by
    intro exchange member
    cases member
  exact isKept.send rfl before (carry rfl before) exchange carried

/-! ## Requests -/

/-- The request that a call is sent as. One to an encrypted place starts with a request for a tunnel. -/
def Call.opening (call : Call) : Request :=
  if call.url.scheme == "https".toList then call.tunnelRequest else call.request

theorem Network.exchange_receives (network : Network) (request : Request) :
    (network.exchange request).2.reachable = network.reachable ∧
      (network.exchange request).2.received = network.received ++ [asRead request] := by
  rw [exchange]
  cases network.answers with
  | nil => exact ⟨rfl, rfl⟩
  | cons answer rest => exact ⟨rfl, rfl⟩

theorem carry_reachable {network : Network} (reachable : network.reachable = true) (asked : Url)
    (call : Call) :
    (Carrier.carry asked call network).2.reachable = true ∧
      (Carrier.carry asked call network).2.received =
        network.received ++ [Network.asRead call.opening] := by
  have opened : Carrier.carry asked call network = exchange network asked call := rfl
  rw [opened, exchange, Call.opening, if_neg (by simp [reachable])]
  split
  · exact ⟨reachable, rfl⟩
  · have receives := network.exchange_receives call.request
    rw [reachable] at receives
    rcases exchanged : network.exchange call.request with ⟨outcome, after⟩
    rw [exchanged] at receives
    cases outcome with
    | lost fault => exact receives
    | answered status headers body => exact receives

/-- What a network that can be reached receives while a call is sent. -/
theorem received_send {network : Network} (reachable : network.reachable = true)
    (patience : Patience) (call : Call) :
    (send network patience call).2.received = network.received ++
      (send (⟨network, []⟩ : Recorded Network) patience call).2.exchanges.map
        fun exchange => Network.asRead exchange.call.opening := by
  have carry (asked : Url) {next : Call} {recorded : Recorded Network}
      (earlier : recorded.state.reachable = true ∧ recorded.state.received = network.received ++
        recorded.exchanges.map fun exchange => Network.asRead exchange.call.opening) :
      (Carrier.carry asked next recorded).2.state.reachable = true ∧
        (Carrier.carry asked next recorded).2.state.received = network.received ++
          (Carrier.carry asked next recorded).2.exchanges.map
            fun exchange => Network.asRead exchange.call.opening := by
    rcases carry_reachable earlier.1 asked next with ⟨still, received⟩
    rw [carry_recorded]
    refine ⟨still, ?_⟩
    rw [received, earlier.2, List.map_append, List.append_assoc]
    rfl
  have isKept : IsKept (fun _ => True) (fun recorded : Recorded Network =>
      recorded.state.reachable = true ∧ recorded.state.received = network.received ++
        recorded.exchanges.map fun exchange => Network.asRead exchange.call.opening) := {
    redirection := fun _ _ => trivial
    carried := fun asked previous place _ _ earlier => carry asked earlier }
  have before : network.reachable = true ∧ network.received = network.received ++
      ([] : List Exchange).map fun exchange => Network.asRead exchange.call.opening :=
    ⟨reachable, (List.append_nil _).symm⟩
  have same := congrArg Prod.snd (send_recorded (⟨network, []⟩ : Recorded Network) patience call)
  dsimp only [Prod.map] at same
  rw [← same]
  have reached := @IsKept.send _ _ _ _ isKept patience call ⟨network, []⟩ trivial before
    (carry call.url before)
  exact reached.2

theorem send_of_not_isTarget {call : Call} (web : call.url.isHttp = true)
    (noTarget : isTarget call.url = false) (state : σ) (patience : Patience) :
    send state patience call = (.error (.badTarget call.url.text), state) := by
  rw [send, if_neg (by simp [web]), if_pos (by simp [noTarget])]

/-- Nothing is wrong with a call that can be sent, so it is carried as it is before anything else. -/
theorem exists_first_exchange {call : Call} (web : call.url.isHttp = true)
    (sendable : isTarget call.url = true) (state : σ) (patience : Patience) :
    ∃ outcome more, (send (⟨state, []⟩ : Recorded σ) patience call).2.exchanges =
      ⟨call, outcome⟩ :: more := by
  rcases exists_carry_recorded call.url call (⟨state, []⟩ : Recorded σ) with ⟨outcome, after, carried⟩
  rw [send, if_neg (by simp [web]), if_neg (by simp [sendable])]
  dsimp only
  rw [carried]
  cases patience with
  | none => exact ⟨outcome, [], rfl⟩
  | some patience =>
      rcases follow_exchanges call.url call.url patience call outcome
        (⟨after, [⟨call, outcome⟩]⟩ : Recorded σ) with ⟨more, exchanges, _⟩
      exact ⟨outcome, more, exchanges⟩

end NodeConsole.Http
