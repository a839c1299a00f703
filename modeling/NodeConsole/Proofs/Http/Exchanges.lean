import NodeConsole.Http.Client
/-!
The exchanges of a call. Recording them changes nothing; without patience there is at most one, and
with patience they form a trail on which each reply but the last sends the call on. How many there are
depends on the patience and on the first reply, and what became of the document of a call can be read
off the replies of its trail.
-/

namespace NodeConsole.Http

variable {σ : Type} [Carrier σ]

/-! ## Recording -/

theorem carry_recorded (asked : Url) (call : Call) (recorded : Recorded σ) :
    Carrier.carry asked call recorded =
      ((Carrier.carry asked call recorded.state).1,
        ⟨(Carrier.carry asked call recorded.state).2,
          recorded.exchanges ++ [⟨call, (Carrier.carry asked call recorded.state).1⟩]⟩) :=
  rfl

theorem follow_recorded (asked url : Url) (patience : Nat) (call : Call)
    (outcome : Except Fault Response) (recorded : Recorded σ) :
    (follow asked url patience call (outcome, recorded)).map id Recorded.state =
      follow asked url patience call (outcome, recorded.state) := by
  induction patience generalizing url call outcome recorded with
  | zero =>
      cases outcome with
      | error fault => rw [follow_error, follow_error, Prod.map, id]
      | ok response =>
          cases sends : call.redirection? url response with
          | none => rw [follow_of_none sends, follow_of_none sends, Prod.map, id]
          | some next => rw [follow_zero_of_some sends, follow_zero_of_some sends, Prod.map, id]
  | succ patience induction =>
      cases outcome with
      | error fault => rw [follow_error, follow_error, Prod.map, id]
      | ok response =>
          cases sends : call.redirection? url response with
          | none => rw [follow_of_none sends, follow_of_none sends, Prod.map, id]
          | some next =>
              rw [follow_succ_of_some sends, follow_succ_of_some sends]
              split
              · exact induction ..
              · rfl

theorem send_recorded (recorded : Recorded σ) (patience : Patience) (call : Call) :
    (send recorded patience call).map id Recorded.state = send recorded.state patience call := by
  rw [send, send]
  split
  · rfl
  · split
    · rfl
    · cases patience with
      | none => rfl
      | some patience => exact follow_recorded ..

/-! ## One attempt -/

/-- Without patience a call is carried once at most, and whatever comes back is the answer. -/
theorem send_none {call : Call} (web : call.url.isHttp = true) (state : σ) :
    send state none call =
      if isTarget call.url then Carrier.carry call.url call state
      else (.error (.badTarget call.url.text), state) := by
  rw [send]
  cases sendable : isTarget call.url <;> simp [web]

/-! ## Redirections -/

theorem redirection?_eq_some_iff {call next : Call} {url place : Url} {response : Response} :
    call.redirection? url response = some (next, place) ↔
      call.redirected? response.status = some next ∧
        location? url response.headers = some place := by
  simp [Call.redirection?, Option.bind_eq_some_iff]

/-! ## Trails -/

/-- The exchanges of a call: those whose reply sends the call on, and the last one. The first two
calls are the one that is sent on and the one that is carried; they differ in headers only. -/
inductive Trail : Call → Call → List Exchange → Exchange → Prop
  | last (call carried : Call) (outcome : Except Fault Response) :
      Trail call carried [] ⟨carried, outcome⟩
  | sentOn {call carried next : Call} {place : Url} {response : Response}
      {earlier : List Exchange} {last : Exchange} :
      call.redirection? carried.url response = some (next, place) →
      place.isHttp = true →
      Trail next (next.sentOn carried.url place) earlier last →
      Trail call carried (⟨carried, .ok response⟩ :: earlier) last

/-- Following redirections ends with what it was given or with a fault, or it goes on to one place. -/
theorem follow_cases {asked url : Url} {patience : Nat} {call : Call}
    {outcome result : Except Fault Response} {state after : σ}
    (followed : follow asked url patience call (outcome, state) = (result, after)) :
    (after = state ∧ ∀ response, result = .ok response → outcome = .ok response) ∨
      ∃ fewer response next place, patience = fewer + 1 ∧ outcome = .ok response ∧
        call.redirection? url response = some (next, place) ∧ place.isHttp = true ∧
        follow asked place fewer next (Carrier.carry asked (next.sentOn url place) state) =
          (result, after) := by
  cases outcome with
  | error fault =>
      rw [follow_error] at followed
      cases followed
      exact .inl ⟨rfl, fun _ answered => answered⟩
  | ok response =>
      cases sends : call.redirection? url response with
      | none =>
          rw [follow_of_none sends] at followed
          cases followed
          exact .inl ⟨rfl, fun _ answered => answered⟩
      | some next =>
          cases patience with
          | zero =>
              rw [follow_zero_of_some sends] at followed
              cases followed
              exact .inl ⟨rfl, fun _ answered => nomatch answered⟩
          | succ fewer =>
              rw [follow_succ_of_some sends] at followed
              split at followed
              · next web => exact .inr ⟨fewer, response, next.1, next.2, rfl, rfl, sends, web, followed⟩
              · cases followed
                exact .inl ⟨rfl, fun _ answered => nomatch answered⟩

theorem follow_trail {asked : Url} {patience : Nat} {call carried : Call}
    {outcome result : Except Fault Response} {state : σ} {before : List Exchange}
    {after : Recorded σ}
    (followed : follow asked carried.url patience call
      (outcome, ⟨state, before ++ [⟨carried, outcome⟩]⟩) = (result, after)) :
    ∃ earlier last, after.exchanges = before ++ earlier ++ [last] ∧
      Trail call carried earlier last ∧
      ∀ response, result = .ok response → last.outcome = .ok response := by
  induction patience generalizing call carried outcome state before with
  | zero =>
      rcases follow_cases followed with ⟨rfl, answered⟩ | ⟨_, _, _, _, fewer, _⟩
      · exact ⟨[], ⟨carried, outcome⟩, by simp, .last .., answered⟩
      · cases fewer
  | succ patience induction =>
      rcases follow_cases followed with
        ⟨rfl, answered⟩ | ⟨fewer, response, next, place, less, rfl, sends, web, rest⟩
      · exact ⟨[], ⟨carried, outcome⟩, by simp, .last .., answered⟩
      · cases less
        have continued : ∃ earlier last,
            after.exchanges = (before ++ [⟨carried, .ok response⟩]) ++ earlier ++ [last] ∧
              Trail next (next.sentOn carried.url place) earlier last ∧
              ∀ response, result = .ok response → last.outcome = .ok response :=
          induction rest
        rcases continued with ⟨earlier, last, exchanges, trail, answered⟩
        refine ⟨⟨carried, .ok response⟩ :: earlier, last, ?_, .sentOn sends web trail, answered⟩
        rw [exchanges]
        simp

/-- A call that is answered at last has left a trail. -/
theorem send_trail {state : σ} {before : List Exchange} {patience : Nat} {call : Call}
    {response : Response} {after : Recorded σ}
    (sent : send (⟨state, before⟩ : Recorded σ) (some patience) call = (.ok response, after)) :
    ∃ earlier last, after.exchanges = before ++ earlier ++ [last] ∧
      Trail call call earlier last ∧ last.outcome = .ok response := by
  rw [send] at sent
  split at sent
  · cases sent
  · split at sent
    · cases sent
    · rcases follow_trail sent with ⟨earlier, last, exchanges, trail, answered⟩
      exact ⟨earlier, last, exchanges, trail, answered response rfl⟩

/-! ## How often a call is sent -/

theorem isSome_redirected?_iff (call : Call) (status : Nat) :
    (call.redirected? status).isSome = true ↔ status ∈ [301, 302, 303, 307, 308] := by
  rw [Call.redirected?]
  simp only [List.mem_cons, List.not_mem_nil, or_false]
  split
  · next moved => rcases moved with rfl | rfl <;> simp
  · next notMoved =>
    split
    · next other => simp [other]
    · next notOther =>
      split
      · next again => rcases again with rfl | rfl <;> simp
      · next notAgain =>
        refine iff_of_false (by simp) ?_
        omega

def Response.SendsOn (response : Response) (url : Url) : Prop :=
  response.status ∈ [301, 302, 303, 307, 308] ∧
    ∃ place, location? url response.headers = some place ∧ place.isHttp = true

theorem sendsOn_iff (call : Call) {url : Url} {response : Response} :
    response.SendsOn url ↔
      ∃ next place, call.redirection? url response = some (next, place) ∧
        place.isHttp = true := by
  simp only [redirection?_eq_some_iff, Response.SendsOn, ← isSome_redirected?_iff call,
    Option.isSome_iff_exists]
  constructor
  · rintro ⟨⟨next, redirected⟩, place, located, web⟩
    exact ⟨next, place, ⟨redirected, located⟩, web⟩
  · rintro ⟨next, place, ⟨redirected, located⟩, web⟩
    exact ⟨⟨next, redirected⟩, place, located, web⟩

theorem exists_carry_recorded (asked : Url) (call : Call) (recorded : Recorded σ) :
    ∃ outcome state, Carrier.carry asked call recorded =
      (outcome, (⟨state, recorded.exchanges ++ [⟨call, outcome⟩]⟩ : Recorded σ)) :=
  ⟨_, _, carry_recorded asked call recorded⟩

/-- What was exchanged stays, and each redirection that is followed adds one exchange. -/
theorem follow_exchanges (asked url : Url) (patience : Nat) (call : Call)
    (outcome : Except Fault Response) (recorded : Recorded σ) :
    ∃ more, (follow asked url patience call (outcome, recorded)).2.exchanges =
        recorded.exchanges ++ more ∧ more.length ≤ patience := by
  induction patience generalizing url call outcome recorded with
  | zero =>
      rcases followed : follow asked url 0 call (outcome, recorded) with ⟨result, after⟩
      rcases follow_cases followed with ⟨rfl, _⟩ | ⟨_, _, _, _, fewer, _⟩
      · exact ⟨[], (List.append_nil _).symm, Nat.le_refl 0⟩
      · cases fewer
  | succ patience induction =>
      rcases followed : follow asked url (patience + 1) call (outcome, recorded) with ⟨result, after⟩
      rcases follow_cases followed with
        ⟨rfl, _⟩ | ⟨fewer, response, next, place, less, _, _, _, rest⟩
      · exact ⟨[], (List.append_nil _).symm, Nat.zero_le _⟩
      · cases less
        rcases exists_carry_recorded asked (next.sentOn url place) recorded with
          ⟨outcome, state, carried⟩
        rw [carried] at rest
        rcases induction place next outcome ⟨state, recorded.exchanges ++ [⟨_, outcome⟩]⟩ with
          ⟨more, exchanges, bounded⟩
        rw [rest, List.append_assoc] at exchanges
        exact ⟨_, exchanges, Nat.succ_le_succ bounded⟩

theorem follow_of_not_sendsOn {url : Url} {outcome : Except Fault Response}
    (ends : ∀ response, outcome = .ok response → ¬response.SendsOn url) (asked : Url)
    (patience : Nat) (call : Call) (recorded : Recorded σ) :
    (follow asked url patience call (outcome, recorded)).2 = recorded := by
  rcases followed : follow asked url patience call (outcome, recorded) with ⟨result, after⟩
  rcases follow_cases followed with ⟨same, _⟩ | ⟨_, response, next, place, _, answered, sends, web, _⟩
  · exact same
  · exact absurd ((sendsOn_iff call).mpr ⟨next, place, sends, web⟩) (ends response answered)

theorem lt_length_follow {url : Url} {response : Response} (sends : response.SendsOn url)
    (asked : Url) (patience : Nat) (call : Call) (recorded : Recorded σ) :
    recorded.exchanges.length <
      (follow asked url (patience + 1) call (.ok response, recorded)).2.exchanges.length := by
  rcases (sendsOn_iff call).mp sends with ⟨next, place, redirection, web⟩
  rcases exists_carry_recorded asked (next.sentOn url place) recorded with ⟨outcome, state, carried⟩
  rcases follow_exchanges asked place patience next outcome
      (⟨state, recorded.exchanges ++ [⟨_, outcome⟩]⟩ : Recorded σ) with ⟨more, exchanges, _⟩
  rw [follow_succ_of_some redirection, if_pos web, carried, exchanges]
  simp only [List.length_append, List.length_singleton]
  omega

/-- The exchanges of a call that is sent with patience: none where there is something wrong with the
call itself. Otherwise the first one carries the call as it is, and there are more of them exactly if
its response sends the call on. -/
theorem send_exchanges (state : σ) (patience : Nat) (call : Call) :
    (send (⟨state, []⟩ : Recorded σ) (some (patience + 1)) call).2.exchanges = [] ∨
      ∃ outcome more,
        (send (⟨state, []⟩ : Recorded σ) (some (patience + 1)) call).2.exchanges =
            ⟨call, outcome⟩ :: more ∧
          more.length ≤ patience + 1 ∧
          (more = [] ↔ ∀ response, outcome = .ok response → ¬response.SendsOn call.url) := by
  rw [send]
  split
  · exact .inl rfl
  · split
    · exact .inl rfl
    · dsimp only
      rcases exists_carry_recorded call.url call (⟨state, []⟩ : Recorded σ) with
        ⟨outcome, after, carried⟩
      rcases follow_exchanges call.url call.url (patience + 1) call outcome
        (⟨after, [⟨call, outcome⟩]⟩ : Recorded σ) with ⟨more, exchanges, bounded⟩
      rw [carried]
      refine .inr ⟨outcome, more, exchanges, bounded, ?_⟩
      constructor
      -- A response that sends the call on is not the last: there would be a second exchange.
      · rintro none response rfl sends
        have longer := lt_length_follow sends call.url patience call
          (⟨after, [⟨call, .ok response⟩]⟩ : Recorded σ)
        rw [exchanges, none, List.append_nil] at longer
        exact Nat.lt_irrefl _ longer
      · intro ends
        rw [follow_of_not_sendsOn ends] at exchanges
        exact (List.append_cancel_left (exchanges.symm.trans (List.append_nil _).symm))

/-! ## Documents on a trail -/

theorem method_of_redirected?_get {call next : Call} {status : Nat} (gets : call.method = "GET")
    (redirected : call.redirected? status = some next) : next.method = "GET" := by
  rw [Call.redirected?] at redirected
  split at redirected
  · rw [if_neg (by simp [gets])] at redirected
    cases redirected
    exact gets
  · split at redirected
    · rw [if_neg (by simp [gets])] at redirected
      cases redirected
      rfl
    · split at redirected
      · cases redirected
        exact gets
      · cases redirected

/-- The statuses after which a document is sent once more. The others that send a call on turn it
into one that only asks for a document. -/
def Repeats (status : Nat) : Prop :=
  status = 307 ∨ status = 308

theorem redirected?_post {call next : Call} {status : Nat} (posts : call.method = "POST")
    (redirected : call.redirected? status = some next) :
    (Repeats status ∧ next = call) ∨ (¬Repeats status ∧ next.method = "GET") := by
  rw [Call.redirected?] at redirected
  split at redirected
  · next moved =>
    cases redirected
    refine .inr ⟨?_, rfl⟩
    rcases moved with rfl | rfl <;> simp [Repeats]
  · split at redirected
    · next other =>
      rw [if_neg (by simp [posts])] at redirected
      cases redirected
      exact .inr ⟨by simp [Repeats, other], rfl⟩
    · split at redirected
      · next again =>
        cases redirected
        exact .inl ⟨again, rfl⟩
      · cases redirected

/-- A call that only asks for a document never sends one later on. -/
theorem Trail.get {call carried : Call} {earlier : List Exchange} {last : Exchange}
    (trail : Trail call carried earlier last) (callGets : call.method = "GET")
    (carriedGets : carried.method = "GET") : last.call.method = "GET" := by
  induction trail with
  | last => exact carriedGets
  | sentOn sends _ _ induction =>
      have nextGets := method_of_redirected?_get callGets (redirection?_eq_some_iff.mp sends).1
      exact induction nextGets nextGets

def Exchange.Repeated (exchange : Exchange) : Prop :=
  ∃ response, exchange.outcome = .ok response ∧ Repeats response.status

/-- The last exchange of a document on its way carries the document exactly if every reply before
had it sent once more. -/
theorem Trail.post_iff {call carried : Call} {earlier : List Exchange} {last : Exchange}
    (trail : Trail call carried earlier last) (callPosts : call.method = "POST")
    (carriedPosts : carried.method = "POST") (sameBody : carried.body = call.body) :
    last.call.method = "POST" ∧ last.call.body = call.body ↔
      ∀ exchange ∈ earlier, exchange.Repeated := by
  induction trail with
  | last =>
      constructor
      · intro _ exchange member
        cases member
      · intro _
        exact ⟨carriedPosts, sameBody⟩
  | @sentOn call carried next place response earlier last sends _ trail induction =>
      have redirected := (redirection?_eq_some_iff.mp sends).1
      rcases redirected?_post callPosts redirected with ⟨repeats, rfl⟩ | ⟨drops, nextGets⟩
      · rw [induction callPosts callPosts rfl, List.forall_mem_cons]
        constructor
        · intro later
          exact ⟨⟨response, rfl, repeats⟩, later⟩
        · intro all
          exact all.2
      · have lastGets := trail.get nextGets nextGets
        constructor
        · intro carries
          rw [lastGets] at carries
          exact absurd carries.1 (by decide)
        · intro all
          rcases all _ (List.mem_cons_self ..) with ⟨answer, found, repeats⟩
          cases found
          exact absurd repeats drops

end NodeConsole.Http
