import SchemaCall.Proofs.Memo.Runs
import SchemaCall.Proofs.Schema.Projection

/-!
# Where results come from

Memos may hand out a result long after the server sent it, to a call that was never checked. Still
every result is accounted for (`Model.Accounted`): its operation is declared, the arguments at hand
would be accepted, and some exchange with the server, now or earlier in the run, was about the same
operation and the same parameters up to member order, and brought the result in, which was projected
through the output schema. No assumption is made about the server.
-/

namespace SchemaCall

variable {σ : Type}

namespace Model

variable {model : Model} {transport : Transport σ}

/-- A call adds to the log and takes nothing from it. -/
theorem mem_log_of_call {name : String} {args : Arguments} {state : List Exchange × σ}
    {exchange : Exchange} (h : exchange ∈ state.1) :
    exchange ∈ (model.call transport.recorded name args state).2.1 := by
  cases hparams : model.params name args with
  | error error => rwa [call_of_params_error hparams]
  | ok params =>
    rw [call_of_params_ok hparams]
    exact List.mem_append_left _ h

/-- The log has an exchange that accounts for the result of the call. -/
def Accounted (model : Model) (call : Call) (result : Json) (log : List Exchange) : Prop :=
  ∃ operation params, model.operation? call.operation = some operation ∧
    call.args.accept operation.input = .ok params ∧
    ∃ exchange ∈ log, exchange.method = call.operation ∧
      Json.Alike exchange.params params.toJson ∧
      ∃ response raw, exchange.answer = .ok response ∧ response.get? "result" = some raw ∧
        result = operation.output.project raw

/-- A call that succeeds leaves the exchange that accounts for it at the end of the log. -/
theorem accounted_of_call_eq_ok {call : Call} {state : List Exchange × σ} {result : Json}
    (h : (model.call transport.recorded call.operation call.args state).1 = .ok result) :
    model.Accounted call result
      (model.call transport.recorded call.operation call.args state).2.1 := by
  obtain ⟨operation, params, response, raw, hoperation, haccept, hsend, hraw, hproject⟩ :=
    call_eq_ok_iff.mp h
  rw [call_of_params_ok (params_eq_ok_iff.mpr ⟨operation, hoperation, haccept⟩)]
  exact ⟨operation, params, hoperation, haccept, _, List.mem_append_right _ List.mem_cons_self, rfl,
    .refl _, response, raw, hsend, Response.get?_result_of_result? hraw, hproject.symm⟩

/-- What accounts for a result accounts for it under alike arguments. -/
theorem Accounted.alike {operation : String} {a b : Arguments} {result : Json}
    {log : List Exchange} (halike : a.Alike b) (h : model.Accounted ⟨operation, a⟩ result log) :
    model.Accounted ⟨operation, b⟩ result log := by
  obtain ⟨declared, params, hdeclared, haccept, exchange, hexchange, hmethod, hparams, hanswer⟩ := h
  obtain ⟨others, hothers, hsame⟩ := Arguments.accept_alike halike haccept
  exact ⟨declared, others, hdeclared, hothers, exchange, hexchange, hmethod, hparams.trans hsame,
    hanswer⟩

/-- To be accounted for is a property that memos can rely on. -/
theorem sound_accounted (model : Model) (transport : Transport σ) (calls : List Call) :
    Sound (model.call transport.recorded) calls fun call result state =>
      model.Accounted call result state.1 where
  made _ _ _ _ hresult := accounted_of_call_eq_ok hresult
  kept := by
    rintro next - call result state
      ⟨operation, params, hoperation, haccept, exchange, hexchange, hrest⟩
    exact ⟨operation, params, hoperation, haccept, exchange, mem_log_of_call hexchange, hrest⟩
  alike _ _ _ _ _ halike h := h.alike halike

/-- Whenever a call succeeds, after any run through any layers of memos and over any transport, then
its operation is declared, its arguments are accepted, and the log of the run up to and with this
call has an exchange about the operation and these arguments, up to member order, whose response has
the result; projecting it again changes nothing. -/
theorem exists_exchange_of_call_eq_ok (model : Model) (transport : Transport σ)
    (capacities : List Capacity) (start : σ) (before : List Call) (call : Call)
    (distinct : NoCollision (before ++ [call])) (result : Json)
    (h : (Layers.call (model.call transport) call.operation call.args
      ((Layers.call (model.call transport)).run before (.fresh capacities start)).2).1 =
        .ok result) :
    ∃ operation params, model.operation? call.operation = some operation ∧
      call.args.accept operation.input = .ok params ∧
      (∃ exchange ∈ ((Layers.call (model.call transport.recorded)).run (before ++ [call])
          (.fresh capacities ([], start))).2.state.1,
        exchange.method = call.operation ∧ Json.Alike exchange.params params.toJson ∧
        ∃ response raw, exchange.answer = .ok response ∧ response.get? "result" = some raw ∧
          result = operation.output.project raw) ∧
      operation.output.project result = result := by
  have hsound := sound_accounted model transport (before ++ [call])
  have hcall : call ∈ before ++ [call] := by simp
  -- the run that is watched comes to the same answer
  have hrefines := refines_call_recorded model transport
  rw [hrefines.run_fresh before capacities ([], start)] at h
  have hwatched := (congrArg Prod.fst (hrefines.layers ..)).symm.trans h
  have hremembers := hsound.remembers_run distinct (List.subset_append_left before [call])
    (Layers.remembers_fresh _ _ capacities ([], start))
  obtain ⟨operation, params, hoperation, haccept, exchange, hexchange, hmethod, hparams, response,
    raw, hanswer, hraw, hresult⟩ := hsound.property_of_call distinct hremembers hcall hwatched
  refine ⟨operation, params, hoperation, haccept, ⟨exchange, ?_, hmethod, hparams, response, raw,
    hanswer, hraw, hresult⟩, ?_⟩
  · rw [Caller.run_append]
    exact hexchange
  · rw [hresult, Schema.project_project]

end Model

/-- A server that paints in another colour from the second request on, and tells the price, which is
not declared. -/
def Transport.painter : Transport ℕ where
  name := "painter"
  send _ _ served := (.ok (.object [("result", .object
    [("price", .null), ("colour", .string (if served = 0 then "red" else "grey"))])]), served + 1)

/-- An order of paint after others: the memo answers it, and the log has the exchange the answer
came from. -/
theorem Model.exists_exchange_of_paintRed :
    NoCollision (Call.paintOrders ++ [.paintRed]) ∧
    (Layers.call (Model.paintShop.call .painter) "paint" Call.paintRed.args
      ((Layers.call (Model.paintShop.call .painter)).run Call.paintOrders
        (.fresh [.unbounded] 0)).2).1 = .ok (.object [("colour", .string "red")]) ∧
    ∃ operation params, Model.paintShop.operation? "paint" = some operation ∧
      Call.paintRed.args.accept operation.input = .ok params ∧
      (∃ exchange ∈ ((Layers.call (Model.paintShop.call Transport.painter.recorded)).run
          (Call.paintOrders ++ [.paintRed]) (.fresh [.unbounded] ([], 0))).2.state.1,
        exchange.method = "paint" ∧ Json.Alike exchange.params params.toJson ∧
        ∃ response raw, exchange.answer = .ok response ∧ response.get? "result" = some raw ∧
          .object [("colour", .string "red")] = operation.output.project raw) ∧
      operation.output.project (.object [("colour", .string "red")]) =
        .object [("colour", .string "red")] := by
  have hresult : (Layers.call (Model.paintShop.call .painter) "paint" Call.paintRed.args
      ((Layers.call (Model.paintShop.call .painter)).run Call.paintOrders
        (.fresh [.unbounded] 0)).2).1 = .ok (.object [("colour", .string "red")]) := by
    decide +kernel
  exact ⟨Call.noCollision_paintOrders, hresult,
    Model.exists_exchange_of_call_eq_ok .paintShop .painter [.unbounded] 0 Call.paintOrders
      .paintRed Call.noCollision_paintOrders _ hresult⟩

end SchemaCall
