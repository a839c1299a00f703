import NodeConsole.Settings.Client
/-!
Clients at work. Cloning a client gives another one on the same transport; whichever client an order
goes through, it acts upon the state that all of them share.
-/

namespace NodeConsole.Settings

variable {σ : Type}

structure Session (σ : Type) where
  state : σ
  clients : List (Transport σ)

inductive Step where
  | ask (client : Nat) (order : Order)
  | clone (client : Nat)
deriving BEq, Repr

namespace Session

def start (transport : Transport σ) (state : σ) : Session σ :=
  ⟨state, [transport]⟩

/-- Take a step; an order has a result. A step through a client that is not there does nothing. -/
def step (session : Session σ) : Step → Option Result × Session σ
  | .ask client order =>
    match session.clients[client]? with
    | none => (none, session)
    | some transport =>
      let (result, state) := transport.perform order session.state
      (some result, { session with state })
  | .clone client =>
    (none, { session with clients := session.clients ++ session.clients[client]?.toList })

def run (session : Session σ) : List Step → List Result × Session σ
  | [] => ([], session)
  | step :: steps =>
    let (result, session) := session.step step
    let (results, session) := session.run steps
    (result.toList ++ results, session)

theorem step_ask {session : Session σ} {client : Nat} {transport : Transport σ}
    (found : session.clients[client]? = some transport) (order : Order) :
    session.step (.ask client order) =
      (some (transport.perform order session.state).1,
        { session with state := (transport.perform order session.state).2 }) := by
  rw [step, found]

theorem step_clone {session : Session σ} {client : Nat} {transport : Transport σ}
    (found : session.clients[client]? = some transport) :
    session.step (.clone client) =
      (none, { session with clients := session.clients ++ [transport] }) := by
  rw [step, found, Option.toList_some]

theorem run_cons (session : Session σ) (step : Step) (steps : List Step) :
    session.run (step :: steps) =
      ((session.step step).1.toList ++ ((session.step step).2.run steps).1,
        ((session.step step).2.run steps).2) :=
  rfl

end Session

end NodeConsole.Settings
