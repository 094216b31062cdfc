import SchemaCall.Proofs.Call.Dispatch

/-!
# Runs of calls

`Caller.run` makes calls one after the other. A caller can be watched while it answers
(`Caller.recorded`), and a transport while it sends (`Transport.recorded`). Watching changes nothing
(`Refines.run`).
-/

namespace SchemaCall

variable {σ τ : Type}

/-- A call of an operation. -/
structure Call where
  operation : String
  args : Arguments
  deriving DecidableEq

namespace Caller

/-- The answers to calls that are made one after the other, and the state after the last one. -/
def run (caller : Caller σ) : List Call → σ → List (Except CallError Json) × σ
  | [], state => ([], state)
  | call :: rest, state =>
    let (answer, state) := caller call.operation call.args state
    let (answers, state) := run caller rest state
    (answer :: answers, state)

theorem run_cons (caller : Caller σ) (call : Call) (rest : List Call) (state : σ) :
    run caller (call :: rest) state =
      ((caller call.operation call.args state).1 ::
          (run caller rest (caller call.operation call.args state).2).1,
        (run caller rest (caller call.operation call.args state).2).2) := rfl

/-- To make calls and then others is to make them in one run. -/
theorem run_append (caller : Caller σ) (before after : List Call) (state : σ) :
    run caller (before ++ after) state =
      ((run caller before state).1 ++ (run caller after (run caller before state).2).1,
        (run caller after (run caller before state).2).2) := by
  induction before generalizing state with
  | nil => rfl
  | cons call before ih => rw [List.cons_append, run_cons, run_cons, ih, List.cons_append]

end Caller

/-! ## Watching a caller -/

/-- A call that was made, and how it was answered. -/
structure Invocation where
  call : Call
  answer : Except CallError Json

/-- The same caller with a log of the calls that it was asked to answer. -/
def Caller.recorded (caller : Caller σ) : Caller (List Invocation × σ) :=
  fun operation args (log, state) =>
    let (answer, state) := caller operation args state
    (answer, log ++ [⟨⟨operation, args⟩, answer⟩], state)

/-- The two callers answer alike, and `view` leaves the state of the coarse one from that of the
fine one. -/
def Refines (view : τ → σ) (fine : Caller τ) (coarse : Caller σ) : Prop :=
  ∀ operation args state,
    coarse operation args (view state) = (fine operation args state).map id view

/-- A caller that is watched answers like the caller. -/
theorem refines_recorded (caller : Caller σ) : Refines Prod.snd caller.recorded caller :=
  fun _ _ _ => rfl

/-- A refinement of one call is a refinement of runs. -/
theorem Refines.run {view : τ → σ} {fine : Caller τ} {coarse : Caller σ}
    (h : Refines view fine coarse) (calls : List Call) (state : τ) :
    coarse.run calls (view state) = (fine.run calls state).map id view := by
  induction calls generalizing state with
  | nil => rfl
  | cons call rest ih =>
    rw [Caller.run_cons, Caller.run_cons, h]
    dsimp only [Prod.map]
    rw [ih]
    rfl

/-! ## Watching a transport -/

/-- A request that was sent, and how it was answered. -/
structure Exchange where
  method : String
  params : Json
  answer : Except CallError Json

/-- The same transport with a log of its exchanges. -/
def Transport.recorded (transport : Transport σ) : Transport (List Exchange × σ) where
  name := transport.name
  send method params := fun (log, state) =>
    let (answer, state) := transport.send method params state
    (answer, log ++ [⟨method, params, answer⟩], state)

/-- A transport that is watched sends like the transport, and writes the exchange at the end of the
log. -/
theorem Transport.send_recorded (transport : Transport σ) (method : String) (params : Json)
    (log : List Exchange) (state : σ) :
    transport.recorded.send method params (log, state) =
      ((transport.send method params state).1,
        log ++ [⟨method, params, (transport.send method params state).1⟩],
        (transport.send method params state).2) := rfl

/-- A model does not notice whether its transport is watched. -/
theorem Model.refines_call_recorded (model : Model) (transport : Transport σ) :
    Refines Prod.snd (model.call transport.recorded) (model.call transport) := by
  intro name args state
  cases hparams : model.params name args with
  | error error => rw [call_of_params_error hparams, call_of_params_error hparams]; rfl
  | ok params => rw [call_of_params_ok hparams, call_of_params_ok hparams]; rfl

/-! ## A model to try runs on -/

/-- A model with one operation, which answers in which colour something is painted. -/
def Model.paintShop : Model :=
  (ofEndpoint "http://localhost/").withOperation "paint" "Paint something."
    (.struct [("colour", .scalar .string none), ("glossy", .scalar .boolean none)] none)
    (.struct [("colour", .scalar .string none)] none)

/-- A call of its operation. -/
def Call.paintRed : Call :=
  ⟨"paint", .ofLists [] [("colour", .string "red"), ("glossy", .bool true)]⟩

/-- Another call of it. -/
def Call.paintGrey : Call := ⟨"paint", .ofLists [] [("colour", .string "grey")]⟩

/-- The same call twice, in two orders, one whose arguments are refused, and one of an operation
that is not declared. -/
def Call.paintOrders : List Call :=
  [.paintRed, ⟨"paint", .ofLists [] [("glossy", .bool true), ("colour", .string "red")]⟩,
    ⟨"paint", .ofLists [] [("shade", .string "red")]⟩, ⟨"polish", .none⟩]

end SchemaCall
