import SchemaCall.Proofs.Call.Response
import SchemaCall.Proofs.Memo.Runs
import SchemaCall.Proofs.Model.Warnings

/-!
# Whose fault a failure is

A failed call is the caller's fault if it was refused before anything was sent, for another reason
than a node of unknown kind in the model (`Model.Dispatches.callerFault_iff`). This takes a
transport that fails in the exchange only, as one over HTTP does
(`Http.failsInExchange_transport`). The failure of a response is never the caller's fault
(`Response.callerFault_eq_false`), and a schema that tells of no unknown kinds refuses nothing for
one (`Schema.not_unsupportedKind_of_accept`). Memos do not remember failures, so a failure that
comes through them comes from the call behind them (`Layers.call_eq_of_error`).
-/

namespace SchemaCall

variable {σ : Type}

/-- The failure is a node of unknown kind in the input schema. -/
def CallError.IsUnsupportedKind (error : CallError) : Prop :=
  ∃ tag path, error = .nonconforming (.unsupportedKind tag path)

/-- The transport fails only when the exchange with the server does. -/
def Transport.FailsInExchange (transport : Transport σ) : Prop :=
  ∀ method params state error, (transport.send method params state).1 = .error error →
    ∃ cause, error = .transport cause

/-- Whatever goes wrong with a request over HTTP is a failure of the exchange. -/
theorem Http.failsInExchange_transport (exchange : Http.Exchange) (endpoint : String) :
    (Http.transport exchange endpoint).FailsInExchange := by
  intro method params sent error h
  have hdeliver : Http.deliver exchange endpoint (Http.request method params sent) =
      .error error := h
  rw [Http.deliver] at hdeliver
  split at hdeliver
  · exact ⟨_, (Except.error.inj hdeliver).symm⟩
  · split at hdeliver
    · exact ⟨_, (Except.error.inj hdeliver).symm⟩
    · rename_i answer _
      cases hdocument : answer.document with
      | ok document =>
        rw [hdocument] at hdeliver
        contradiction
      | error cause =>
        rw [hdocument] at hdeliver
        exact ⟨cause, (Except.error.inj hdeliver).symm⟩

/-! ## Failures by where they come from -/

/-- A violation is the caller's fault unless the schema has a node of unknown kind there. -/
theorem CallError.callerFault_nonconforming_iff {violation : Violation} :
    (CallError.nonconforming violation).callerFault = true ↔
      ¬(CallError.nonconforming violation).IsUnsupportedKind := by
  cases violation <;> simp [callerFault, IsUnsupportedKind]

/-- A response that is no answer is not the caller's fault. -/
theorem Response.callerFault_eq_false {output : Schema} {response : Json} {error : CallError}
    (h : answer output response = .error error) : error.callerFault = false := by
  cases answer_eq_iff.mp h <;> rfl

namespace Schema

/-- The node at a position is one of the nodes. -/
theorem mem_nodes_of_atPosition? {schema node : Schema} {position : Position}
    (h : schema.atPosition? position = some node) : (position, node) ∈ schema.nodes := by
  induction position generalizing schema with
  | nil =>
    obtain rfl := Option.some.inj h
    cases schema <;> exact List.mem_cons_self
  | cons step rest ih =>
    obtain ⟨below, hbelow, hnode⟩ := Option.bind_eq_some_iff.mp h
    cases schema with
    | struct members documentation =>
      cases step with
      | member name =>
        have hmember : (name, below) ∈ members := Entries.mem_of_get? hbelow
        exact List.mem_cons_of_mem _
          (mem_memberNodes_iff.mpr ⟨name, below, rest, hmember, rfl, ih hnode⟩)
      | element => exact nomatch hbelow
    | list element documentation =>
      cases step with
      | member name => exact nomatch hbelow
      | element =>
        obtain rfl := Option.some.inj hbelow
        exact List.mem_cons_of_mem _ (List.mem_map.mpr ⟨(rest, node), ih hnode, rfl⟩)
    | _ => cases step <;> exact nomatch hbelow

/-- A schema that tells of no unknown kinds has no node of unknown kind anywhere. -/
theorem atPosition?_ne_unsupported {schema : Schema} (h : schema.unsupportedNodes = [])
    (position : Position) (tag : String) (documentation : Option String) :
    schema.atPosition? position ≠ some (.unsupported tag documentation) := by
  intro hnode
  have hunknown : (position, tag) ∈ schema.unknowns :=
    List.mem_filterMap.mpr ⟨_, mem_nodes_of_atPosition? hnode, rfl⟩
  rw [unsupportedNodes_eq_map] at h
  rw [List.map_eq_nil_iff.mp h] at hunknown
  exact nomatch hunknown

/-- Such a schema refuses no arguments for an unknown kind. -/
theorem not_unsupportedKind_of_accept {input : Schema} (h : input.unsupportedNodes = [])
    {args : Arguments} {error : CallError} (hrefused : args.accept input = .error error) :
    ¬error.IsUnsupportedKind := by
  rintro ⟨tag, path, rfl⟩
  obtain ⟨location, -, documentation, -, described, -⟩ := exists_location_of_accept hrefused
  rw [atLocation?_eq_atPosition?] at described
  exact atPosition?_ne_unsupported h location.position tag documentation described

end Schema

/-! ## One call -/

namespace Model

variable {model : Model} {transport : Transport σ} {call : Call} {state after : σ}
  {error : CallError} {sent : List Exchange}

/-- A failed call is the caller's fault if and only if nothing was sent and no unknown kind is to
blame. -/
theorem Dispatches.callerFault_iff (hfails : transport.FailsInExchange)
    (h : model.Dispatches transport call state (.error error) sent after) :
    error.callerFault = true ↔ sent = [] ∧ ¬error.IsUnsupportedKind := by
  generalize hanswer : Except.error error = answer at h
  cases h with
  | undeclared _ =>
    obtain rfl := Except.error.inj hanswer
    simp [CallError.callerFault, CallError.IsUnsupportedKind]
  | mixed _ _ =>
    obtain rfl := Except.error.inj hanswer
    simp [CallError.callerFault, CallError.IsUnsupportedKind]
  | nonconforming _ _ _ =>
    obtain rfl := Except.error.inj hanswer
    rw [CallError.callerFault_nonconforming_iff, and_iff_right rfl]
  | failed _ _ _ hsend =>
    obtain rfl := Except.error.inj hanswer
    obtain ⟨cause, rfl⟩ := hfails _ _ _ _ (congrArg Prod.fst hsend)
    simp [CallError.callerFault]
  | answered _ _ _ _ =>
    rw [Response.callerFault_eq_false hanswer.symm]
    simp

/-- A call that sends nothing was refused by the model. -/
theorem Dispatches.params_eq_error
    (h : model.Dispatches transport call state (.error error) [] after) :
    model.params call.operation call.args = .error error := by
  generalize hanswer : Except.error error = answer at h
  generalize hnone : ([] : List Exchange) = sent at h
  cases h with
  | undeclared unknown =>
    obtain rfl := Except.error.inj hanswer
    exact params_of_operation?_eq_none unknown call.args
  | mixed declared both =>
    obtain rfl := Except.error.inj hanswer
    rw [params_of_operation? declared]
    exact Arguments.accept_of_isMixed both
  | nonconforming declared single violated =>
    obtain rfl := Except.error.inj hanswer
    rw [params_of_operation? declared]
    exact Arguments.accept_of_check_eq_error single violated
  | failed => exact nomatch hnone
  | answered => exact nomatch hnone

/-- Where the input has no nodes of unknown kind, none is to blame for a call that sends nothing. -/
theorem Dispatches.not_isUnsupportedKind
    (h : model.Dispatches transport call state (.error error) [] after)
    (hknown : ∀ operation, model.operation? call.operation = some operation →
      operation.input.unsupportedNodes = []) : ¬error.IsUnsupportedKind := by
  have hparams := h.params_eq_error
  cases hdeclared : model.operation? call.operation with
  | none =>
    rw [params_of_operation?_eq_none hdeclared] at hparams
    obtain rfl := Except.error.inj hparams
    rintro ⟨tag, path, heq⟩
    exact nomatch heq
  | some operation =>
    rw [params_of_operation? hdeclared] at hparams
    exact Schema.not_unsupportedKind_of_accept (hknown operation hdeclared) hparams

end Model

/-! ## Calls through memos -/

namespace Layers

/-- A call that fails was passed on behind all memos, which only count it. -/
theorem call_eq_of_error {inner : Caller σ} {operation : String} {args : Arguments}
    {layers : Layers σ} {error : CallError}
    (h : (call inner operation args layers).1 = .error error) :
    call inner operation args layers = (.error error,
      ⟨layers.memos.map (·.countMiss), (inner operation args layers.state).2⟩) := by
  have hinner := call_eq_error h
  unfold call at h ⊢
  rcases callThrough_cases inner operation args layers.memos layers.state with
    ⟨_, _, _, _, -, -, -, hthrough⟩ | ⟨-, hthrough⟩
  · rw [hthrough] at h
    exact nomatch h
  · rw [hthrough, hinner]
    rfl

/-- Whatever the memos remember and whatever was sent before: a call that fails is the caller's
fault if and only if it sent nothing and no unknown kind is to blame. Where the operation is not
declared, or its input tells of no unknown kinds, it is enough that nothing was sent. -/
theorem callerFault_iff_nothing_sent {model : Model} {transport : Transport σ}
    (hfails : transport.FailsInExchange) {layers : Layers σ} {operation : String}
    {args : Arguments} {error : CallError}
    (h : (call (model.call transport) operation args layers).1 = .error error) :
    ∃ sent : List Exchange,
      (∀ log, ∃ after,
        call (model.call transport.recorded) operation args ⟨layers.memos, log, layers.state⟩ =
          (.error error, after) ∧ after.state.1 = log ++ sent) ∧
      (error.callerFault = true ↔ sent = [] ∧ ¬error.IsUnsupportedKind) ∧
      ((∀ declared, model.operation? operation = some declared →
          declared.input.unsupportedNodes = []) →
        (error.callerFault = true ↔ sent = [])) := by
  obtain ⟨answer, sent, after, hdispatches⟩ :=
    model.exists_dispatches transport ⟨operation, args⟩ layers.state
  -- watching the transport does not change the answer
  have hwatched (log : List Exchange) :
      (call (model.call transport.recorded) operation args ⟨layers.memos, log, layers.state⟩).1 =
        .error error := by
    have hsame := (model.refines_call_recorded transport).layers operation args
      ⟨layers.memos, log, layers.state⟩
    rw [← h]
    exact (congrArg Prod.fst hsame).symm
  -- memos have no failures, so this one comes from the call behind them
  obtain rfl : answer = .error error := by
    rw [← call_eq_error (hwatched []), hdispatches.call_eq []]
  have hfault := hdispatches.callerFault_iff hfails
  refine ⟨sent, fun log => ?_, hfault, fun hknown => ?_⟩
  · refine ⟨_, call_eq_of_error (hwatched log), ?_⟩
    exact congrArg (fun result => result.2.1) (hdispatches.call_eq log)
  · constructor
    · exact fun h => (hfault.mp h).1
    · rintro rfl
      exact hfault.mpr ⟨rfl, hdispatches.not_isUnsupportedKind hknown⟩

end Layers

/-- A transport that fails at the first request, and answers every later one with an error. -/
def Transport.unreliable : Transport ℕ where
  name := "unreliable"
  send _ _ count :=
    if count = 0 then (.error (.transport (.other "no route")), 1)
    else (.ok (.object [("error", .string "out of paint")]), count + 1)

/-- The unreliable transport fails in the exchange only. -/
theorem Transport.failsInExchange_unreliable : unreliable.FailsInExchange := by
  intro method params count error h
  unfold unreliable at h
  dsimp only at h
  split at h
  · exact ⟨_, (Except.error.inj h).symm⟩
  · exact nomatch h

/-- The state that a first order leaves behind two memos: it failed on the way. -/
def Layers.afterUnreliable : Layers ℕ :=
  (call (Model.paintShop.call .unreliable) "paint" Call.paintRed.args
    (fresh [.unbounded, .unbounded] 0)).2

/-- The first order is not the caller's fault, as it was sent. After it, an order of an operation
that is not declared is, and sends nothing. -/
theorem Layers.callerFault_iff_nothing_sent_unreliable :
    (∃ sent : List Exchange, sent ≠ [] ∧ ∀ log, ∃ after,
      call (Model.paintShop.call Transport.unreliable.recorded) "paint" Call.paintRed.args
          ⟨(fresh [.unbounded, .unbounded] 0).memos, log, 0⟩ =
        (.error (.transport (.other "no route")), after) ∧ after.state.1 = log ++ sent) ∧
    ∀ log, ∃ after,
      call (Model.paintShop.call Transport.unreliable.recorded) "polish" .none
          ⟨afterUnreliable.memos, log, afterUnreliable.state⟩ =
        (.error (.unknownOperation "polish"), after) ∧ after.state.1 = log := by
  have hfirst : (call (Model.paintShop.call .unreliable) "paint" Call.paintRed.args
      (fresh [.unbounded, .unbounded] 0)).1 = .error (.transport (.other "no route")) := by
    decide +kernel
  have hsecond : (call (Model.paintShop.call .unreliable) "polish" .none afterUnreliable).1 =
      .error (.unknownOperation "polish") := by
    decide +kernel
  have hundeclared : Model.paintShop.operation? "polish" = none := by decide
  constructor
  · obtain ⟨sent, hlog, hfault, -⟩ :=
      callerFault_iff_nothing_sent Transport.failsInExchange_unreliable hfirst
    refine ⟨sent, ?_, hlog⟩
    rintro rfl
    have hcause : ¬(CallError.transport (.other "no route")).IsUnsupportedKind := by
      rintro ⟨_, _, heq⟩
      exact nomatch heq
    exact nomatch hfault.mpr ⟨rfl, hcause⟩
  · obtain ⟨sent, hlog, -, hfault⟩ :=
      callerFault_iff_nothing_sent Transport.failsInExchange_unreliable hsecond
    have hnone : sent = [] :=
      (hfault fun _ hdeclared => nomatch hundeclared.symm.trans hdeclared).mp rfl
    intro log
    obtain ⟨after, hcall, hafter⟩ := hlog log
    exact ⟨after, hcall, by rw [hafter, hnone, List.append_nil]⟩

end SchemaCall
