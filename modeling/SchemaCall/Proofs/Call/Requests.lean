import SchemaCall.Http
import SchemaCall.Proofs.Call.Runs

/-!
# Requests of a run

A call is refused before anything is sent, or it sends one request (`Model.Dispatches`): first the
operation has to be declared, then the arguments must not be of both modes, then they must conform.
A call that passes (`Model.Admits`) sends its arguments as they are, and is answered with what comes
back. A run does this for one call after the other (`Model.DispatchesAll`,
`run_eq_iff_dispatchesAll`), so its requests are those of the calls that pass, in order
(`DispatchesAll.requests_eq`); over HTTP they are numbered without a gap (`DispatchesAll.http_eq`).
-/

namespace SchemaCall

variable {σ : Type}

/-! ## Arguments as they are sent -/

namespace Arguments

/-- There are positional arguments and keyword arguments. -/
def IsMixed (args : Arguments) : Prop :=
  args.positional ≠ [] ∧ args.keyword.entries ≠ []

instance (args : Arguments) : Decidable args.IsMixed :=
  inferInstanceAs (Decidable (_ ∧ _))

/-- The arguments as one value: an array of the positional ones if there are any, otherwise an
object of the keyword ones in their order. -/
def toJson (args : Arguments) : Json :=
  match args.positional with
  | [] => .object args.keyword.entries
  | items => .array items

/-- Arguments are no scalar. -/
theorem not_conforms_scalar (args : Arguments) (kind : Scalar) (documentation : Option String) :
    ¬Schema.Conforms (.scalar kind documentation) args.toJson := by
  intro hconforms
  have haccepts := Schema.conforms_scalar_iff.mp hconforms
  unfold toJson at haccepts
  split at haccepts
  · rw [Schema.scalar_accepts_object] at haccepts
    exact nomatch haccepts
  · rw [Schema.scalar_accepts_array] at haccepts
    exact nomatch haccepts

/-- Arguments of both modes make no params, and the error counts those of each mode. -/
theorem params?_of_isMixed {args : Arguments} (h : args.IsMixed) :
    args.params? = .error (.ambiguousMode args.positional.length args.keyword.size) := by
  obtain ⟨hpositional, hkeyword⟩ := h
  have hitems : ¬args.positional.isEmpty = true := by rwa [List.isEmpty_iff]
  have hfields : ¬args.keyword.entries.isEmpty = true := by rwa [List.isEmpty_iff]
  rw [params?, if_neg hitems, if_neg hfields]

/-- Arguments of one mode stand for the parameters that are the same value. -/
theorem exists_params_of_not_isMixed {args : Arguments} (h : ¬args.IsMixed) :
    ∃ params, args.params? = .ok params ∧ params.toJson = args.toJson := by
  obtain ⟨positional, keyword⟩ := args
  cases positional with
  | nil => exact ⟨.keyword keyword, rfl, rfl⟩
  | cons item rest =>
    have hkeyword : keyword.entries = [] := by
      by_contra hne
      exact h ⟨List.cons_ne_nil item rest, hne⟩
    refine ⟨.positional (item :: rest), ?_, rfl⟩
    have hfields : keyword.entries.isEmpty = true := List.isEmpty_iff.mpr hkeyword
    rw [params?]
    exact if_pos hfields

variable {input : Schema} {args : Arguments}

/-- Arguments of both modes are not accepted, whatever the schema. -/
theorem accept_of_isMixed (h : args.IsMixed) : args.accept input =
    .error (.ambiguousMode args.positional.length args.keyword.size) := by
  rw [accept, params?_of_isMixed h]

/-- The first violation is the error of the call. -/
theorem accept_of_check_eq_error (h : ¬args.IsMixed) {violation : Violation}
    (hcheck : input.check args.toJson "$" = .error violation) :
    args.accept input = .error (.nonconforming violation) := by
  obtain ⟨params, hparams, hvalue⟩ := exists_params_of_not_isMixed h
  rw [accept_of_params? hparams, hvalue, hcheck]

/-- A call that is refused for a violation is of one mode, and has that violation first. -/
theorem check_eq_error_of_accept {violation : Violation}
    (h : args.accept input = .error (.nonconforming violation)) :
    ¬args.IsMixed ∧ input.check args.toJson "$" = .error violation := by
  by_cases hmixed : args.IsMixed
  · rw [accept_of_isMixed hmixed] at h
    exact nomatch h
  · obtain ⟨params, hparams, hvalue⟩ := exists_params_of_not_isMixed hmixed
    refine ⟨hmixed, ?_⟩
    rw [accept_of_params? hparams, hvalue] at h
    cases hcheck : input.check args.toJson "$" with
    | ok => rw [hcheck] at h; exact nomatch h
    | error found =>
      rw [hcheck] at h
      rw [CallError.nonconforming.inj (Except.error.inj h)]

/-- Conforming arguments are accepted as they are. -/
theorem exists_accept_of_conforms (h : ¬args.IsMixed) (hconforms : input.Conforms args.toJson) :
    ∃ params, args.accept input = .ok params ∧ params.toJson = args.toJson := by
  obtain ⟨params, hparams, hvalue⟩ := exists_params_of_not_isMixed h
  exact ⟨params, accept_eq_ok_iff.mpr ⟨hparams, hvalue ▸ hconforms⟩, hvalue⟩

/-- Arguments are accepted if and only if they are of one mode and conform. -/
theorem exists_accept_iff : (∃ params, args.accept input = .ok params) ↔
    ¬args.IsMixed ∧ input.Conforms args.toJson := by
  constructor
  · rintro ⟨params, haccept⟩
    obtain ⟨hparams, hconforms⟩ := accept_eq_ok_iff.mp haccept
    have hmixed : ¬args.IsMixed := fun hmixed => by
      rw [params?_of_isMixed hmixed] at hparams
      exact nomatch hparams
    obtain ⟨found, hfound, hvalue⟩ := exists_params_of_not_isMixed hmixed
    obtain rfl : params = found := Except.ok.inj (hparams.symm.trans hfound)
    exact ⟨hmixed, hvalue ▸ hconforms⟩
  · rintro ⟨hmixed, hconforms⟩
    obtain ⟨params, haccept, -⟩ := exists_accept_of_conforms hmixed hconforms
    exact ⟨params, haccept⟩

end Arguments

/-! ## One call -/

namespace Model

/-- The call passes all checks: its operation is declared, its arguments are of one mode, and they
conform to the input schema. -/
def Admits (model : Model) (call : Call) : Prop :=
  ∃ operation, model.operation? call.operation = some operation ∧
    ¬call.args.IsMixed ∧ operation.input.Conforms call.args.toJson

/-- What a call does in a state of the transport: how it is answered, which requests it sends, and
in which state it leaves the transport. The rules are in the order in which the checks are made. A
call is refused, and nothing is sent, if its operation is not declared, if its arguments are of both
modes, or if they do not conform to the input. Any other sends one request, with the arguments as
they are; either this fails, or the response is read for the answer. -/
inductive Dispatches (model : Model) (transport : Transport σ) (call : Call) (state : σ) :
    Except CallError Json → List Exchange → σ → Prop where
  | undeclared (unknown : model.operation? call.operation = none) :
      Dispatches model transport call state (.error (.unknownOperation call.operation)) [] state
  | mixed {operation : Operation} (declared : model.operation? call.operation = some operation)
      (both : call.args.IsMixed) :
      Dispatches model transport call state
        (.error (.ambiguousMode call.args.positional.length call.args.keyword.size)) [] state
  | nonconforming {operation : Operation} {violation : Violation}
      (declared : model.operation? call.operation = some operation) (single : ¬call.args.IsMixed)
      (violated : operation.input.check call.args.toJson "$" = .error violation) :
      Dispatches model transport call state (.error (.nonconforming violation)) [] state
  | failed {operation : Operation} {error : CallError} {after : σ}
      (declared : model.operation? call.operation = some operation) (single : ¬call.args.IsMixed)
      (conforms : operation.input.Conforms call.args.toJson)
      (sent : transport.send call.operation call.args.toJson state = (.error error, after)) :
      Dispatches model transport call state (.error error)
        [⟨call.operation, call.args.toJson, .error error⟩] after
  | answered {operation : Operation} {response : Json} {after : σ}
      (declared : model.operation? call.operation = some operation) (single : ¬call.args.IsMixed)
      (conforms : operation.input.Conforms call.args.toJson)
      (sent : transport.send call.operation call.args.toJson state = (.ok response, after)) :
      Dispatches model transport call state (Response.answer operation.output response)
        [⟨call.operation, call.args.toJson, .ok response⟩] after

variable {model : Model} {transport : Transport σ} {call : Call} {state after : σ}
  {answer : Except CallError Json} {sent : List Exchange}

/-- The params of a call to a declared operation are those that its input accepts. -/
theorem params_of_operation? {name : String} {operation : Operation}
    (h : model.operation? name = some operation) (args : Arguments) :
    model.params name args = args.accept operation.input := by
  rw [params, findOperation, h]

/-- A call to an operation that is not declared has no params. -/
theorem params_of_operation?_eq_none {name : String} (h : model.operation? name = none)
    (args : Arguments) : model.params name args = .error (.unknownOperation name) := by
  rw [params, findOperation, h]

/-- There is a rule for every call in every state. -/
theorem exists_dispatches (model : Model) (transport : Transport σ) (call : Call) (state : σ) :
    ∃ answer sent after, model.Dispatches transport call state answer sent after := by
  cases hdeclared : model.operation? call.operation with
  | none => exact ⟨_, _, _, .undeclared hdeclared⟩
  | some operation =>
    by_cases hmixed : call.args.IsMixed
    · exact ⟨_, _, _, .mixed hdeclared hmixed⟩
    · cases hcheck : operation.input.check call.args.toJson "$" with
      | error violation => exact ⟨_, _, _, .nonconforming hdeclared hmixed hcheck⟩
      | ok _ =>
        have hconforms := Schema.check_eq_ok_iff.mp hcheck
        rcases hsend : transport.send call.operation call.args.toJson state with ⟨outcome, after⟩
        cases outcome with
        | error error => exact ⟨_, _, _, .failed hdeclared hmixed hconforms hsend⟩
        | ok response => exact ⟨_, _, _, .answered hdeclared hmixed hconforms hsend⟩

/-- A conforming call sends its arguments, whatever comes back. -/
private theorem call_recorded_of_conforms {operation : Operation}
    (declared : model.operation? call.operation = some operation) (single : ¬call.args.IsMixed)
    (conforms : operation.input.Conforms call.args.toJson) {outcome : Except CallError Json}
    (hsend : transport.send call.operation call.args.toJson state = (outcome, after))
    (log : List Exchange) :
    model.call transport.recorded call.operation call.args (log, state) =
      (outcome.bind (Response.answer operation.output),
        log ++ [⟨call.operation, call.args.toJson, outcome⟩], after) := by
  obtain ⟨params, haccept, hvalue⟩ := Arguments.exists_accept_of_conforms single conforms
  have hparams : model.params call.operation call.args = .ok params := by
    rw [params_of_operation? declared, haccept]
  have hanswer : model.answer call.operation = Response.answer operation.output :=
    funext fun response => answer_eq_of_operation? declared response
  rw [call_of_params_ok hparams, hvalue, hanswer, Transport.send_recorded, hsend]

/-- A call follows the rules, and the log of a transport that is watched shows its requests. -/
theorem Dispatches.call_eq (h : model.Dispatches transport call state answer sent after)
    (log : List Exchange) :
    model.call transport.recorded call.operation call.args (log, state) =
      (answer, log ++ sent, after) := by
  cases h with
  | undeclared unknown =>
    rw [call_of_params_error (params_of_operation?_eq_none unknown call.args), List.append_nil]
  | mixed declared both =>
    have hparams := params_of_operation? declared call.args
    rw [Arguments.accept_of_isMixed both] at hparams
    rw [call_of_params_error hparams, List.append_nil]
  | nonconforming declared single violated =>
    have hparams := params_of_operation? declared call.args
    rw [Arguments.accept_of_check_eq_error single violated] at hparams
    rw [call_of_params_error hparams, List.append_nil]
  | failed declared single conforms hsend =>
    exact call_recorded_of_conforms declared single conforms hsend log
  | answered declared single conforms hsend =>
    exact call_recorded_of_conforms declared single conforms hsend log

/-! ## Runs -/

/-- What a run of calls does: each call follows the rules in the state that the one before it left
behind, and the requests follow each other. -/
inductive DispatchesAll (model : Model) (transport : Transport σ) :
    List Call → σ → List (Except CallError Json) → List Exchange → σ → Prop where
  | nil (state : σ) : DispatchesAll model transport [] state [] [] state
  | cons {call : Call} {rest : List Call} {state between after : σ}
      {answer : Except CallError Json} {answers : List (Except CallError Json)}
      {sent later : List Exchange}
      (first : model.Dispatches transport call state answer sent between)
      (others : DispatchesAll model transport rest between answers later after) :
      DispatchesAll model transport (call :: rest) state (answer :: answers) (sent ++ later) after

variable {calls : List Call} {answers : List (Except CallError Json)}

/-- Whatever the calls, the rules give a run. -/
theorem exists_dispatchesAll (model : Model) (transport : Transport σ) (calls : List Call)
    (state : σ) :
    ∃ answers sent after, model.DispatchesAll transport calls state answers sent after := by
  induction calls generalizing state with
  | nil => exact ⟨[], [], state, .nil state⟩
  | cons call rest ih =>
    obtain ⟨answer, sent, between, hfirst⟩ := exists_dispatches model transport call state
    obtain ⟨answers, later, after, hothers⟩ := ih between
    exact ⟨answer :: answers, sent ++ later, after, .cons hfirst hothers⟩

/-- A run follows the rules, and adds its requests to the log. -/
theorem DispatchesAll.run_eq (h : model.DispatchesAll transport calls state answers sent after)
    (log : List Exchange) :
    (model.call transport.recorded).run calls (log, state) = (answers, log ++ sent, after) := by
  induction h generalizing log with
  | nil state => rw [List.append_nil]; rfl
  | cons first others ih => rw [Caller.run_cons, first.call_eq log, ih, List.append_assoc]

/-- What a run does is what the rules say, and nothing else. -/
theorem run_eq_iff_dispatchesAll {log : List Exchange} :
    (model.call transport.recorded).run calls ([], state) = (answers, log, after) ↔
      model.DispatchesAll transport calls state answers log after := by
  constructor
  · intro hrun
    obtain ⟨answers', sent, after', hall⟩ := exists_dispatchesAll model transport calls state
    have heq := hrun.symm.trans (hall.run_eq [])
    obtain ⟨rfl, hrest⟩ := Prod.mk.inj heq
    obtain ⟨rfl, rfl⟩ := Prod.mk.inj hrest
    exact hall
  · intro hall
    exact hall.run_eq []

/-! ## The requests -/

/-- A call to a declared operation is admitted if it keeps to one mode and conforms to the input. -/
theorem admits_iff_of_operation? {operation : Operation}
    (h : model.operation? call.operation = some operation) :
    model.Admits call ↔ ¬call.args.IsMixed ∧ operation.input.Conforms call.args.toJson := by
  constructor
  · rintro ⟨found, hfound, hpasses⟩
    obtain rfl : found = operation := Option.some.inj (hfound.symm.trans h)
    exact hpasses
  · intro hpasses
    exact ⟨operation, h, hpasses⟩

/-- A call to an operation that is not declared is not admitted. -/
theorem not_admits_of_operation?_eq_none (h : model.operation? call.operation = none) :
    ¬model.Admits call := by
  rintro ⟨operation, hdeclared, -⟩
  exact nomatch hdeclared.symm.trans h

instance (model : Model) (call : Call) : Decidable (model.Admits call) :=
  match h : model.operation? call.operation with
  | none => .isFalse (not_admits_of_operation?_eq_none h)
  | some operation =>
    decidable_of_iff
      (¬call.args.IsMixed ∧ operation.input.check call.args.toJson "$" = .ok ())
      (by rw [admits_iff_of_operation? h, Schema.check_eq_ok_iff])

/-- Those of the calls that pass all checks, in order. -/
def admitted (model : Model) (calls : List Call) : List Call :=
  calls.filter fun call => model.Admits call

/-- A call that is admitted comes before the admitted ones of the rest. -/
theorem admitted_cons_of_admits (h : model.Admits call) (rest : List Call) :
    model.admitted (call :: rest) = call :: model.admitted rest :=
  List.filter_cons_of_pos (by simpa using h)

/-- A call that is not admitted is left out. -/
theorem admitted_cons_of_not_admits (h : ¬model.Admits call) (rest : List Call) :
    model.admitted (call :: rest) = model.admitted rest :=
  List.filter_cons_of_neg (by simpa using h)

/-- A call that is refused sends nothing and leaves the transport alone. -/
theorem Dispatches.eq_of_not_admits (h : model.Dispatches transport call state answer sent after)
    (hrefused : ¬model.Admits call) : sent = [] ∧ after = state := by
  cases h with
  | failed declared single conforms _ => exact absurd ⟨_, declared, single, conforms⟩ hrefused
  | answered declared single conforms _ => exact absurd ⟨_, declared, single, conforms⟩ hrefused
  | _ => exact ⟨rfl, rfl⟩

/-- A call that passes makes the transport send its arguments once, and takes what comes back. -/
theorem Dispatches.eq_of_admits (h : model.Dispatches transport call state answer sent after)
    (hadmits : model.Admits call) :
    sent = [⟨call.operation, call.args.toJson,
        (transport.send call.operation call.args.toJson state).1⟩] ∧
      after = (transport.send call.operation call.args.toJson state).2 := by
  cases h with
  | undeclared unknown => exact absurd hadmits (not_admits_of_operation?_eq_none unknown)
  | mixed declared both => exact absurd both ((admits_iff_of_operation? declared).mp hadmits).1
  | nonconforming declared _ violated =>
    have hconforms := ((admits_iff_of_operation? declared).mp hadmits).2
    exact nomatch violated.symm.trans (Schema.check_eq_ok_iff.mpr hconforms)
  | failed _ _ _ hsend => rw [hsend]; exact ⟨rfl, rfl⟩
  | answered _ _ _ hsend => rw [hsend]; exact ⟨rfl, rfl⟩

/-- The requests of a run are those of the calls that pass, in order. -/
theorem DispatchesAll.requests_eq
    (h : model.DispatchesAll transport calls state answers sent after) :
    sent.map (fun exchange => (exchange.method, exchange.params)) =
      (model.admitted calls).map fun call => (call.operation, call.args.toJson) := by
  induction h with
  | nil state => rfl
  | @cons call rest _ _ _ _ _ _ _ first others ih =>
    rw [List.map_append, ih]
    by_cases hadmits : model.Admits call
    · rw [(first.eq_of_admits hadmits).1, admitted_cons_of_admits hadmits]
      rfl
    · rw [(first.eq_of_not_admits hadmits).1, admitted_cons_of_not_admits hadmits]
      rfl

/-- Over HTTP the requests of a run carry numbers without a gap, and the transport counts them. -/
theorem DispatchesAll.http_eq {exchange : Http.Exchange} {endpoint : String} {number count : UInt64}
    (h : model.DispatchesAll (Http.transport exchange endpoint) calls number answers sent count) :
    sent = (model.admitted calls).zipIdx.map (fun (call, k) =>
        ⟨call.operation, call.args.toJson, Http.deliver exchange endpoint
          (Http.request call.operation call.args.toJson (number + .ofNat k))⟩) ∧
      count = number + .ofNat (model.admitted calls).length := by
  induction h with
  | nil number => exact ⟨rfl, (UInt64.add_zero number).symm⟩
  | @cons call rest number between count _ _ _ _ first others ih =>
    obtain ⟨hlater, hcount⟩ := ih
    by_cases hadmits : model.Admits call
    · obtain ⟨hsent, hbetween⟩ := first.eq_of_admits hadmits
      obtain rfl : between = number + 1 := hbetween
      -- the later requests are counted from the next number
      have hnext (k : ℕ) : number + UInt64.ofNat (k + 1) = number + 1 + UInt64.ofNat k := by
        rw [UInt64.ofNat_add, UInt64.add_comm (UInt64.ofNat k), UInt64.add_assoc]
        rfl
      rw [admitted_cons_of_admits hadmits, hsent, hlater, hcount, List.zipIdx_cons, List.map_cons,
        List.zipIdx_succ, List.map_map, List.length_cons, hnext]
      refine ⟨congrArg₂ List.cons ?_ (List.map_congr_left ?_), rfl⟩
      · exact congrArg (fun word => Exchange.mk _ _ (Http.deliver _ _ (Http.request _ _ word)))
          (UInt64.add_zero number).symm
      · rintro ⟨other, k⟩ -
        rw [Function.comp_apply]
        dsimp only
        rw [hnext]
    · obtain ⟨hsent, rfl⟩ := first.eq_of_not_admits hadmits
      rw [admitted_cons_of_not_admits hadmits, hsent, hlater, hcount]
      exact ⟨rfl, rfl⟩

/-- Whatever calls are made over whatever transport, the run does what the rules say and nothing
else. Watching the transport changes nothing. The requests are those of the calls that pass all
checks, in order and with the arguments as they are. Over HTTP each of them is posted as a document
with the method and the arguments, and the documents carry numbers without a gap. -/
theorem run_requests (model : Model) (transport : Transport σ) (calls : List Call) (start : σ) :
    (∀ answers log after,
      (model.call transport.recorded).run calls ([], start) = (answers, log, after) ↔
        model.DispatchesAll transport calls start answers log after) ∧
    (model.call transport).run calls start =
      ((model.call transport.recorded).run calls ([], start)).map id Prod.snd ∧
    ((model.call transport.recorded).run calls ([], start)).2.1.map
        (fun exchange => (exchange.method, exchange.params)) =
      (model.admitted calls).map (fun call => (call.operation, call.args.toJson)) ∧
    ∀ exchange endpoint number,
      ((model.call (Http.transport exchange endpoint).recorded).run calls ([], number)).2 =
        ((model.admitted calls).zipIdx.map fun (call, k) =>
            ⟨call.operation, call.args.toJson, Http.deliver exchange endpoint (.object [
              ("jsonrpc", .string "2.0"),
              ("method", .string call.operation),
              ("params", call.args.toJson),
              ("id", .number (.ofWord (number + .ofNat k)))])⟩,
          number + .ofNat (model.admitted calls).length) := by
  refine ⟨fun _ _ _ => run_eq_iff_dispatchesAll, ?_, ?_, ?_⟩
  · exact (refines_call_recorded model transport).run calls ([], start)
  · obtain ⟨_, sent, after, hall⟩ := exists_dispatchesAll model transport calls start
    rw [hall.run_eq [], List.nil_append, hall.requests_eq]
  -- over HTTP the state is the next number, so the log tells which number each request had
  · intro exchange endpoint number
    obtain ⟨_, sent, count, hall⟩ :=
      exists_dispatchesAll model (Http.transport exchange endpoint) calls number
    rw [hall.run_eq [], List.nil_append, hall.http_eq.1, hall.http_eq.2]
    rfl

end Model

/-- A server that sends back what is posted to it, as a result. -/
def Http.echo : Http.Exchange := fun _ document =>
  .ok ⟨200, Text.Utf8.encode (Json.object [("result", document)]).write⟩

/-- Of the four orders two are posted, under the last number of 64 bits and the one after it, and
each as it was written. -/
theorem Model.run_requests_paintOrders :
    ((Model.paintShop.call (Http.transport Http.echo "http://paint.example").recorded).run
        Call.paintOrders ([], 0xffffffffffffffff)).2.2 = 1 ∧
    ((Model.paintShop.call (Http.transport Http.echo "http://paint.example").recorded).run
        Call.paintOrders ([], 0xffffffffffffffff)).2.1.map (·.answer) =
      [.ok (.object [("result", .object [("jsonrpc", .string "2.0"), ("method", .string "paint"),
          ("params", .object [("colour", .string "red"), ("glossy", .bool true)]),
          ("id", .number (.integer 0xffffffffffffffff (by decide)))])]),
        .ok (.object [("result", .object [("jsonrpc", .string "2.0"), ("method", .string "paint"),
          ("params", .object [("glossy", .bool true), ("colour", .string "red")]),
          ("id", .number (.integer 0 (by decide)))])])] := by
  obtain ⟨-, -, -, hposted⟩ := Model.run_requests .paintShop
    (Http.transport Http.echo "http://paint.example") Call.paintOrders 0
  rw [hposted]
  decide +kernel

end SchemaCall
