import Mathlib.Control.Monad.Basic
import NodeConsole.Console.Run
import NodeConsole.Proofs.Settings.Attempts
/-!
What the success of an update means. The response that is taken for the acknowledgement answers the
last exchange of a trail; whether that exchange still carried the document depends on the replies
before it.
-/

namespace NodeConsole

variable {σ : Type} [Http.Carrier σ]

/-! ## Commands -/

namespace Console

open CommandLine (Action Answers)

def Outcome.map {σ τ : Type} (transform : σ → τ) (outcome : Outcome σ) : Outcome τ where
  result := outcome.result
  records := outcome.records
  network := transform outcome.network
  gateway := outcome.gateway

@[simp] theorem Outcome.map_result {σ τ : Type} (transform : σ → τ) (outcome : Outcome σ) :
    (outcome.map transform).result = outcome.result :=
  rfl

theorem carryOut_recorded (surroundings : Surroundings) (config : Settings.Config) (layout : Layout)
    (order : Settings.Order) (recorded : Http.Recorded σ) :
    (carryOut surroundings config layout order recorded).map Http.Recorded.state =
      carryOut surroundings config layout order recorded.state := by
  rw [carryOut, carryOut, ← Settings.Endpoint.transport_perform_recorded]
  rfl

theorem runSettings_recorded (surroundings : Surroundings) (globals : Answers)
    (order : Except Failure Settings.Order) (recorded : Http.Recorded σ) :
    (runSettings surroundings globals order recorded).map Http.Recorded.state =
      runSettings surroundings globals order recorded.state := by
  rw [runSettings, runSettings]
  split
  · rfl
  · split
    · rfl
    · exact carryOut_recorded ..

theorem perform_recorded (surroundings : Surroundings) (build : String) (globals : Answers)
    (recorded : Http.Recorded σ) (action : Action) :
    (perform surroundings build globals recorded action).map Http.Recorded.state =
      perform surroundings build globals recorded.state action := by
  cases action with
  | get =>
      rw [perform, perform]
      exact runSettings_recorded ..
  | set source =>
      rw [perform, perform]
      exact runSettings_recorded ..
  | proxy listen target area =>
      rw [perform, perform, runGateway, runGateway]
      cases launch surroundings.canBind listen area target.value <;> rfl

def exchangesOf (surroundings : Surroundings) (build : String) (globals : Answers) (state : σ)
    (action : Action) : List Http.Exchange :=
  (perform surroundings build globals (⟨state, []⟩ : Http.Recorded σ) action).network.exchanges

/-- A settings command succeeds only where its order was made and carried out. -/
theorem runSettings_eq_ok {surroundings : Surroundings} {globals : Answers}
    {order : Except Failure Settings.Order} {state : σ} {shown : Printed}
    (succeeded : (runSettings surroundings globals order state).result = .ok shown) :
    ∃ (config : Settings.Config) (made : Settings.Order) (document : Json) (after : σ),
      order = .ok made ∧
      (⟨config.baseUrl, some surroundings.runId⟩ : Settings.Endpoint).transport.perform made state =
        (.ok document, after) ∧
      (runSettings surroundings globals order state).network = after ∧
      shown = printed made ((globals.value? .output).getD .table) document := by
  rw [runSettings] at succeeded ⊢
  split at succeeded
  · cases succeeded
  · next config _ =>
    cases order with
    | error failure => cases succeeded
    | ok made =>
      dsimp only at succeeded ⊢
      rw [carryOut] at succeeded ⊢
      rcases carried : (⟨config.baseUrl, some surroundings.runId⟩ :
          Settings.Endpoint).transport.perform made state with ⟨error | document, after⟩
      · rw [carried] at succeeded
        cases succeeded
      · rw [carried] at succeeded
        injection succeeded with same
        exact ⟨config, made, document, after, rfl, carried, rfl, same.symm⟩

/-! ## Updates -/

/-- The response that an update takes for the acknowledgement, and what it answers. An update that
succeeds has left a trail of exchanges; it prints what the last of them brought back, which is a
success. That exchange carried the document exactly if every reply before was one of those after
which a document is sent once more. -/
theorem update_acknowledged {surroundings : Surroundings} {build : String} {globals : Answers}
    {state : σ} {source : Source} {shown : Printed}
    (succeeded : (perform surroundings build globals state (.set source)).result = .ok shown) :
    ∃ (document acknowledgement : Json) (earlier : List Http.Exchange) (last : Http.Exchange)
      (response : Http.Response),
      source.document surroundings.files = .ok document ∧
        exchangesOf surroundings build globals state (.set source) = earlier ++ [last] ∧
        last.outcome = .ok response ∧
        Settings.Endpoint.isSuccess response.status = true ∧
        Settings.Endpoint.resultOf response = .ok acknowledgement ∧
        shown = printed (.update document) ((globals.value? .output).getD .table) acknowledgement ∧
        (last.call.method = "POST" ∧ last.call.body = Http.bodyOf document.compact ↔
          ∀ exchange ∈ earlier, exchange.Repeated) := by
  have recorded := perform_recorded surroundings build globals ⟨state, []⟩ (.set source)
  rw [← recorded, Outcome.map_result, perform] at succeeded
  rcases runSettings_eq_ok succeeded with
    ⟨config, order, acknowledgement, after, ordered, performed, reached, same⟩
  cases made : source.document surroundings.files with
  | error failure =>
      rw [made] at ordered
      cases ordered
  | ok document =>
      rw [made] at ordered
      cases ordered
      simp only [Settings.Transport.perform, Settings.Endpoint.transport] at performed
      rcases Settings.Endpoint.perform_eq_ok performed with ⟨url, response, _, sent, read⟩
      rcases Http.send_trail sent with ⟨earlier, last, exchanges, trail, answered⟩
      refine ⟨document, acknowledgement, earlier, last, response, rfl, ?_, answered,
        Settings.Endpoint.isSuccess_of_resultOf_eq_ok read, read, same, ?_⟩
      · rw [exchangesOf, perform, reached, exchanges, List.nil_append]
      · have posts := Settings.Endpoint.call_method_of_document
          ⟨config.baseUrl, some surroundings.runId⟩ url document
        exact trail.post_iff posts posts rfl

def oneSetting : Source where
  assignments := [⟨"num_staking", .number (.integer 3)⟩]

def movingOnce (status : Nat) : Http.Network where
  reachable := true
  answers := [.reply status "" [("location", Utf8.bytes "/elsewhere")] [] false]

def outline (exchange : Http.Exchange) : String × Nat × Option Nat :=
  (exchange.call.method, exchange.call.body.size,
    (exchange.outcome.map Http.Response.status).toOption)

theorem answered_of_outline {exchange : Http.Exchange} {method : String} {size status : Nat}
    (glance : outline exchange = (method, size, some status)) :
    ∃ response, exchange.outcome = .ok response ∧ response.status = status := by
  rcases exchange with ⟨call, fault | response⟩
  · simp [outline, Except.map, Except.toOption] at glance
  · simp only [outline, Except.map, Except.toOption, Prod.mk.injEq, Option.some.injEq] at glance
    exact ⟨response, rfl, glance.2.2⟩

theorem repeated_of_outline {exchange : Http.Exchange} {method : String} {size status : Nat}
    (glance : outline exchange = (method, size, some status)) (again : Http.Repeats status) :
    exchange.Repeated := by
  rcases answered_of_outline glance with ⟨response, answered, rfl⟩
  exact ⟨response, answered, again⟩

theorem update_acknowledged_after_repeat :
    ∃ (document : Json) (earlier : List Http.Exchange) (last : Http.Exchange),
      oneSetting.document [] = .ok document ∧
        exchangesOf { runId := "run" } "" .empty (movingOnce 308) (.set oneSetting) =
          earlier ++ [last] ∧
        last.call.method = "POST" ∧ last.call.body = Http.bodyOf document.compact := by
  have succeeded : (perform { runId := "run" } "" .empty (movingOnce 308) (.set oneSetting)).result =
      .ok { text := "Settings updated.\n(empty response)\n" } := by decide +kernel
  have moved :
      (exchangesOf { runId := "run" } "" .empty (movingOnce 308) (.set oneSetting)).map outline =
        [("POST", 17, some 308)] ++ [("POST", 17, some 200)] := by decide +kernel
  rcases update_acknowledged succeeded with
    ⟨document, _, earlier, last, _, made, exchanges, _, _, _, _, carries⟩
  rw [exchanges, List.map_append] at moved
  have first : earlier.map outline = [("POST", 17, some 308)] := (List.append_inj' moved rfl).1
  have repeated : ∀ exchange ∈ earlier, exchange.Repeated := by
    intro exchange member
    have glance := List.mem_map_of_mem (f := outline) member
    rw [first, List.mem_singleton] at glance
    exact repeated_of_outline glance (.inr rfl)
  exact ⟨document, earlier, last, made, exchanges, carries.mpr repeated⟩

/-- An update that was only found elsewhere is taken for an acknowledged one, though the server has
been asked for a document there and not been sent any. -/
theorem update_acknowledged_elsewhere :
    (perform { runId := "run" } "" .empty (movingOnce 302) (.set oneSetting)).result =
        .ok { text := "Settings updated.\n(empty response)\n" } ∧
      (exchangesOf { runId := "run" } "" .empty (movingOnce 302) (.set oneSetting)).map outline =
        [("POST", 17, some 302), ("GET", 0, some 200)] := by
  decide +kernel

end Console

end NodeConsole
