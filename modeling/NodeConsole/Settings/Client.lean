import NodeConsole.Json.Basic
import NodeConsole.Settings.CallError
/-!
Fetching and storing the settings document. A client knows one resource and leaves everything else
to a transport: it changes neither what is sent nor what comes back.
-/

namespace NodeConsole.Settings

abbrev Result :=
  Except CallError Json

structure Transport (σ : Type) where
  get (path : String) : σ → Result × σ
  post (path : String) (body : Json) : σ → Result × σ

def settingsPath : String :=
  "/settings"

inductive Order where
  | fetch
  | update (document : Json)
deriving BEq, Repr

variable {σ : Type}

def Transport.perform (transport : Transport σ) : Order → σ → Result × σ
  | .fetch => transport.get settingsPath
  | .update document => transport.post settingsPath document

def Transport.performAll (transport : Transport σ) : List Order → σ → List Result × σ
  | [], state => ([], state)
  | order :: orders, state =>
    let (result, state) := transport.perform order state
    let (results, state) := transport.performAll orders state
    (result :: results, state)

theorem Transport.performAll_cons (transport : Transport σ) (order : Order) (orders : List Order)
    (state : σ) :
    transport.performAll (order :: orders) state =
      ((transport.perform order state).1 ::
          (transport.performAll orders (transport.perform order state).2).1,
        (transport.performAll orders (transport.perform order state).2).2) :=
  rfl

/-! ## A transport that remembers -/

inductive Record where
  | get (path : String)
  | post (path : String) (body : Json)
deriving BEq, Repr

structure Tape where
  results : List Result
  calls : List Record := []

namespace Tape

/-- Note a call and hand out the next result; without one left, the answer is null. -/
def play (call : Record) (tape : Tape) : Result × Tape :=
  match tape.results with
  | [] => (.ok .null, { tape with calls := tape.calls ++ [call] })
  | result :: rest => (result, ⟨rest, tape.calls ++ [call]⟩)

def transport : Transport Tape where
  get path := play (.get path)
  post path body := play (.post path body)

end Tape

end NodeConsole.Settings
