import NodeConsole.Settings.Session
/-!
Clients as relays. Through whichever client orders go, the transport sees one call for each of them, in
order, and the results are its own: nothing is sent twice, kept back or put into other words.
-/

namespace NodeConsole.Settings

variable {σ : Type}

/-! ## Orders as calls -/

def Order.call : Order → Record
  | .fetch => .get "/settings"
  | .update document => .post "/settings" document

def Transport.receive (transport : Transport σ) : Record → σ → Result × σ
  | .get path => transport.get path
  | .post path body => transport.post path body

theorem Transport.perform_eq_receive (transport : Transport σ) (order : Order) (state : σ) :
    transport.perform order state = transport.receive order.call state := by
  cases order with
  | fetch => rfl
  | update document => rfl

/-- A transport that records its calls and answers from a queue. Nothing is said about its answers
once the queue is empty. -/
structure Transport.Replays (transport : Transport σ) (calls : σ → List Record)
    (queue : σ → List Result) : Prop where
  records : ∀ call state, calls (transport.receive call state).2 = calls state ++ [call]
  advances : ∀ call state, queue (transport.receive call state).2 = (queue state).tail
  answers : ∀ call state result, (queue state).head? = some result →
    (transport.receive call state).1 = result

theorem Tape.replays : Tape.transport.Replays Tape.calls Tape.results := by
  have played (call : Record) (tape : Tape) : Tape.transport.receive call tape = Tape.play call tape := by
    cases call with
    | get path => rfl
    | post path body => rfl
  constructor
  · intro call tape
    rw [played, play]
    split <;> rfl
  · intro call tape
    rw [played, play]
    split
    · next spent => simp [spent]
    · next next rest found => simp [found]
  · intro call tape result found
    rw [played, play]
    split
    · next spent => simp [spent] at found
    · next next rest queued => simpa [queued] using found

namespace Transport.Replays

variable {transport : Transport σ} {calls : σ → List Record} {queue : σ → List Result}

theorem calls_performAll (replays : transport.Replays calls queue) (orders : List Order) (state : σ) :
    calls (transport.performAll orders state).2 = calls state ++ orders.map Order.call := by
  induction orders generalizing state with
  | nil => simp [performAll]
  | cons order orders induction =>
      rw [performAll_cons, perform_eq_receive, List.map_cons]
      rw [induction, replays.records, List.append_assoc, List.singleton_append]

theorem queue_performAll (replays : transport.Replays calls queue) (orders : List Order) (state : σ) :
    queue (transport.performAll orders state).2 = (queue state).drop orders.length := by
  induction orders generalizing state with
  | nil => simp [performAll]
  | cons order orders induction =>
      rw [performAll_cons, perform_eq_receive]
      rw [induction, replays.advances, List.drop_tail, List.length_cons]

/-- Results are handed out in the order of the queue. -/
theorem results_performAll (replays : transport.Replays calls queue) (orders : List Order) (state : σ)
    {place : Nat} {result : Result} (asked : place < orders.length)
    (queued : (queue state)[place]? = some result) :
    (transport.performAll orders state).1[place]? = some result := by
  induction orders generalizing state place with
  | nil => cases asked
  | cons order orders induction =>
      rw [performAll_cons, perform_eq_receive]
      cases place with
      | zero =>
          rw [← List.head?_eq_getElem?] at queued
          rw [List.getElem?_cons_zero, replays.answers order.call state result queued]
      | succ place =>
          rw [List.getElem?_cons_succ]
          apply induction
          · simpa using asked
          · rw [replays.advances, List.getElem?_tail]
            exact queued

end Transport.Replays

theorem Transport.length_performAll (transport : Transport σ) (orders : List Order) (state : σ) :
    (transport.performAll orders state).1.length = orders.length := by
  induction orders generalizing state with
  | nil => rfl
  | cons order orders induction =>
      rw [performAll_cons, List.length_cons, List.length_cons, induction]

/-! ## Sessions -/

def Step.orders (steps : List Step) : List Order :=
  steps.filterMap fun
    | .ask _ order => some order
    | .clone _ => none

theorem Step.orders_ask (client : Nat) (order : Order) (steps : List Step) :
    orders (.ask client order :: steps) = order :: orders steps :=
  List.filterMap_cons_some rfl

theorem Step.orders_clone (client : Nat) (steps : List Step) :
    orders (.clone client :: steps) = orders steps :=
  List.filterMap_cons_none rfl

def Step.Possible : Nat → List Step → Prop
  | _, [] => True
  | clients, .ask client _ :: steps => client < clients ∧ Possible clients steps
  | clients, .clone client :: steps => client < clients ∧ Possible (clients + 1) steps

namespace Session

theorem clients_getElem? {transport : Transport σ} {session : Session σ} {client : Nat}
    (alike : ∀ client ∈ session.clients, client = transport) (present : client < session.clients.length) :
    session.clients[client]? = some transport := by
  rw [List.getElem?_eq_getElem present]
  exact congrArg some (alike _ (List.getElem_mem present))

/-- Clients on one transport are as good as one: a session performs its orders on that transport. -/
theorem run_eq_performAll {transport : Transport σ} {session : Session σ} {steps : List Step}
    (alike : ∀ client ∈ session.clients, client = transport)
    (possible : Step.Possible session.clients.length steps) :
    ((session.run steps).1, (session.run steps).2.state) =
      transport.performAll (Step.orders steps) session.state := by
  induction steps generalizing session with
  | nil => rfl
  | cons step steps induction =>
      cases step with
      | ask client order =>
          have found := clients_getElem? alike possible.1
          have rest := @induction
            { session with state := (transport.perform order session.state).2 } alike possible.2
          rw [run_cons, step_ask found, Step.orders_ask, Transport.performAll_cons, ← rest]
          rfl
      | clone client =>
          have found := clients_getElem? alike possible.1
          have cloned : ∀ client ∈ session.clients ++ [transport], client = transport := by
            intro client member
            rcases List.mem_append.mp member with earlier | new
            · exact alike client earlier
            · exact List.mem_singleton.mp new
          have rest := @induction { session with clients := session.clients ++ [transport] } cloned
            (by simpa using possible.2)
          rw [run_cons, step_clone found, Step.orders_clone, ← rest]
          rfl

/-- A session is a faithful relay. On a transport that records its calls and answers from a queue, the
calls are those of the orders, each once and in order, whichever clients they went through; the results
are those queued, in order, failures like any others, and what is left in the queue is the rest. -/
theorem relays {transport : Transport σ} {calls : σ → List Record} {queue : σ → List Result}
    (replays : transport.Replays calls queue) {steps : List Step} (possible : Step.Possible 1 steps)
    (state : σ) :
    calls ((start transport state).run steps).2.state =
        calls state ++ (Step.orders steps).map Order.call ∧
      queue ((start transport state).run steps).2.state =
        (queue state).drop (Step.orders steps).length ∧
      ((start transport state).run steps).1.length = (Step.orders steps).length ∧
      ∀ place result, place < (Step.orders steps).length →
        (queue state)[place]? = some result →
        ((start transport state).run steps).1[place]? = some result := by
  have ran : (((start transport state).run steps).1, ((start transport state).run steps).2.state) =
      transport.performAll (Step.orders steps) state :=
    run_eq_performAll (by simp [start]) possible
  have results : ((start transport state).run steps).1 =
      (transport.performAll (Step.orders steps) state).1 := congrArg Prod.fst ran
  have reached : ((start transport state).run steps).2.state =
      (transport.performAll (Step.orders steps) state).2 := congrArg Prod.snd ran
  rw [results, reached]
  refine ⟨replays.calls_performAll _ state, replays.queue_performAll _ state,
    transport.length_performAll _ state, ?_⟩
  intro place result asked queued
  exact replays.results_performAll _ state asked queued

def mixedTape : Tape where
  results := [.error (.refused 503 "busy"), .error (.undecodable ⟨.endInValue, none⟩), .ok (.bool true)]

theorem relays_mixedTape :
    ((start Tape.transport mixedTape).run
        [.ask 0 .fetch, .clone 0, .clone 1, .ask 2 (.update (.string "raw")), .ask 1 .fetch]).2.state.calls =
      [.get "/settings", .post "/settings" (.string "raw"), .get "/settings"] ∧
    ((start Tape.transport mixedTape).run
        [.ask 0 .fetch, .clone 0, .clone 1, .ask 2 (.update (.string "raw")), .ask 1 .fetch]).1[1]? =
      some (.error (.undecodable ⟨.endInValue, none⟩)) := by
  have possible : Step.Possible 1
      [.ask 0 .fetch, .clone 0, .clone 1, .ask 2 (.update (.string "raw")), .ask 1 .fetch] := by
    simp [Step.Possible]
  have relayed := relays Tape.replays possible mixedTape
  exact ⟨relayed.1, relayed.2.2.2 1 _ (by decide) rfl⟩

end Session

end NodeConsole.Settings
