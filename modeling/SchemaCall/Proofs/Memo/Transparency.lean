import SchemaCall.Proofs.Call.Dispatch
import SchemaCall.Proofs.Memo.Runs

/-!
# Memos are transparent

In front of a model whose server answers by content alone, memos can not be noticed: whatever calls
are made, in whatever order and through whatever layers, each of them is answered as if it were made
alone and without memos. A result is remembered for all orders in which the arguments can be
written, and all of these are accepted or none of them is (`call_eq_ok_of_alike`); a failure is
never remembered, so that its wording, which may depend on the order, always is that of the call at
hand.
-/

namespace SchemaCall

variable {σ : Type}

/-- The answers depend on the method and on the content of the parameters: not on the order of
object members, and not on what was sent before. -/
def Transport.AnswersByContent (transport : Transport σ) : Prop :=
  ∀ method p q state other, Json.Alike p q →
    (transport.send method p state).1 = (transport.send method q other).1

namespace Model

variable {model : Model} {transport : Transport σ}

/-- A call is answered in the same way at any time. -/
theorem call_eq_of_answersByContent (hcontent : transport.AnswersByContent) (name : String)
    (args : Arguments) (state other : σ) :
    (model.call transport name args state).1 = (model.call transport name args other).1 := by
  cases hparams : model.params name args with
  | error error => rw [call_of_params_error hparams, call_of_params_error hparams]
  | ok params =>
    rw [call_of_params_ok hparams, call_of_params_ok hparams,
      hcontent name _ _ state other (.refl params.toJson)]

/-- A call that succeeds has the same result for all arguments that are alike. -/
theorem call_eq_ok_of_alike (hcontent : transport.AnswersByContent) {name : String}
    {a b : Arguments} (halike : a.Alike b) {state : σ} {result : Json}
    (h : (model.call transport name a state).1 = .ok result) :
    (model.call transport name b state).1 = .ok result := by
  obtain ⟨operation, params, response, raw, hoperation, haccept, hsend, hraw, hproject⟩ :=
    call_eq_ok_iff.mp h
  obtain ⟨others, hothers, hparams⟩ := Arguments.accept_alike halike haccept
  rw [hcontent name _ _ state state hparams] at hsend
  exact call_eq_ok_iff.mpr
    ⟨operation, others, response, raw, hoperation, hothers, hsend, hraw, hproject⟩

/-- To be the result of the call at any time is a property that memos can rely on. -/
theorem sound_of_answersByContent (model : Model) (hcontent : transport.AnswersByContent)
    (calls : List Call) :
    Sound (model.call transport) calls fun call result _ =>
      ∀ state, (model.call transport call.operation call.args state).1 = .ok result where
  made call _ state result hresult other := by
    rw [call_eq_of_answersByContent hcontent _ _ other state, hresult]
  kept _ _ _ _ _ hresult := hresult
  alike _ _ _ _ _ halike hresult state := call_eq_ok_of_alike hcontent halike (hresult state)

/-- Through layers that remember only what is true at any time, calls are answered as without. -/
theorem run_layers_of_remembers (hcontent : transport.AnswersByContent) {calls : List Call}
    (distinct : NoCollision calls) {made : List Call} (hmade : made ⊆ calls) {layers : Layers σ}
    (hlayers : layers.Remembers calls fun call result _ =>
      ∀ state, (model.call transport call.operation call.args state).1 = .ok result) (state : σ) :
    ((Layers.call (model.call transport)).run made layers).1 =
      made.map fun call => (model.call transport call.operation call.args state).1 := by
  have hsound := sound_of_answersByContent model hcontent calls
  induction made generalizing layers with
  | nil => rfl
  | cons call rest ih =>
    have hcall : call ∈ calls := hmade List.mem_cons_self
    have hanswer : (Layers.call (model.call transport) call.operation call.args layers).1 =
        (model.call transport call.operation call.args state).1 := by
      cases hthrough : (Layers.call (model.call transport) call.operation call.args layers).1 with
      | ok result => exact (hsound.property_of_call distinct hlayers hcall hthrough state).symm
      | error error =>
        rw [← Layers.call_eq_error hthrough]
        exact call_eq_of_answersByContent hcontent _ _ _ _
    rw [Caller.run_cons, List.map_cons, hanswer,
      ih (fun c hc => hmade (List.mem_cons_of_mem _ hc))
        (hsound.remembers_call distinct hlayers hcall)]

/-- Over a server that answers by content, any layers of memos give every call of a run the answer
that it has when it is made alone, at any time, and without memos. -/
theorem run_layers_eq_map (model : Model) (transport : Transport σ)
    (hcontent : transport.AnswersByContent) (capacities : List Capacity) (start : σ)
    (calls : List Call) (distinct : NoCollision calls) (state : σ) :
    ((Layers.call (model.call transport)).run calls (.fresh capacities start)).1 =
      calls.map fun call => (model.call transport call.operation call.args state).1 :=
  run_layers_of_remembers hcontent distinct (List.Subset.refl calls)
    (Layers.remembers_fresh calls _ capacities start) state

end Model

/-- A server whose result is what it was sent, with all members in order. It counts requests. -/
def Transport.mirror : Transport ℕ where
  name := "mirror"
  send _ params served := (.ok (.object [("result", params.canonical)]), served + 1)

/-- The mirror answers by what it is asked alone. -/
theorem Transport.answersByContent_mirror : Transport.mirror.AnswersByContent := by
  intro method p q state other halike
  simp only [Transport.mirror, halike.canonical_eq]

/-- Orders of paint through two memos, with a failure and a repeated order among them. -/
theorem Model.run_layers_paintOrders :
    Transport.mirror.AnswersByContent ∧ NoCollision (Call.paintOrders ++ [.paintRed]) ∧
    ((Layers.call (Model.paintShop.call .mirror)).run (Call.paintOrders ++ [.paintRed])
        (.fresh [.atMost 1 Nat.one_pos, .unbounded] 0)).1 =
      [.ok (.object [("colour", .string "red")]),
        .ok (.object [("colour", .string "red")]),
        .error (.nonconforming (.unknownParameter "shade" "$")),
        .error (.unknownOperation "polish"),
        .ok (.object [("colour", .string "red")])] := by
  refine ⟨Transport.answersByContent_mirror, Call.noCollision_paintOrders, ?_⟩
  rw [Model.run_layers_eq_map .paintShop .mirror Transport.answersByContent_mirror _ 0 _
    Call.noCollision_paintOrders 0]
  decide +kernel

end SchemaCall
