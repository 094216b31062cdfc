import SchemaCall.Call.Dispatch
import SchemaCall.Proofs.Json.Alike
import SchemaCall.Proofs.Schema.Conformance

/-!
# What a call does

Two argument lists are alike when a call can not tell them apart except by the order in which
members were written (`Arguments.Alike`): the positional arguments are alike one by one, and the
keyword arguments are equal as maps from names to values, with values that are alike. Such arguments
are accepted together, and sent as parameters that are alike (`Arguments.accept_alike`).

`Model.call_eq_ok_iff` lists everything that has to go well for a call to succeed, and with which
result.
-/

namespace SchemaCall

/-! ## Arguments up to member order -/

namespace Arguments

/-- The arguments differ only in the order of keyword arguments and of object members. -/
structure Alike (a b : Arguments) : Prop where
  positional : List.Forall₂ Json.Alike a.positional b.positional
  keyword : ∀ name, Option.Rel Json.Alike (a.keyword.get? name) (b.keyword.get? name)

/-- Arguments are alike when the two values that they are written as are. -/
theorem alike_iff {a b : Arguments} : a.Alike b ↔
    Json.Alike (.array a.positional) (.array b.positional) ∧
      Json.Alike (.object a.keyword.entries) (.object b.keyword.entries) := by
  rw [Json.alike_array_iff, Json.alike_object_iff a.keyword.distinct b.keyword.distinct]
  exact ⟨fun h => ⟨h.positional, h.keyword⟩, fun h => ⟨h.1, h.2⟩⟩

/-! ## Accepting arguments -/

private theorem isSome_eq_of_rel {x y : Option Json} (h : Option.Rel Json.Alike x y) :
    x.isSome = y.isSome := by
  cases h <;> rfl

private theorem isEmpty_eq_of_alike {as bs : List (String × Json)}
    (h : Json.Alike (.object as) (.object bs)) : as.isEmpty = bs.isEmpty := by
  have hnames (name : String) := isSome_eq_of_rel (h.get? name)
  cases as with
  | nil =>
    cases bs with
    | nil => rfl
    | cons b bs => exact absurd (hnames b.1) (by simp [Entries.get?])
  | cons a as =>
    cases bs with
    | nil => exact absurd (hnames a.1) (by simp [Entries.get?])
    | cons b bs => rfl

/-- Alike arguments are of one mode, and stand for parameters that are alike. -/
theorem params?_alike {a b : Arguments} {params : Params} (h : a.Alike b)
    (ha : a.params? = .ok params) :
    ∃ others, b.params? = .ok others ∧ Json.Alike params.toJson others.toJson := by
  obtain ⟨hpositional, hkeyword⟩ := alike_iff.mp h
  have hitems : a.positional.isEmpty = b.positional.isEmpty := by
    rw [Bool.eq_iff_iff, List.isEmpty_iff_length_eq_zero, List.isEmpty_iff_length_eq_zero,
      h.positional.length_eq]
  have hfields := isEmpty_eq_of_alike hkeyword
  unfold params? at ha ⊢
  rw [← hitems, ← hfields]
  split at ha
  · rename_i hempty
    obtain rfl := Except.ok.inj ha
    rw [if_pos hempty]
    exact ⟨_, rfl, hkeyword⟩
  · rename_i hempty
    rw [if_neg hempty]
    split at ha
    · rename_i hnone
      obtain rfl := Except.ok.inj ha
      rw [if_pos hnone]
      exact ⟨_, rfl, hpositional⟩
    · exact nomatch ha

/-- Arguments are accepted as the params they make, if these conform to the input. -/
theorem accept_eq_ok_iff {input : Schema} {args : Arguments} {params : Params} :
    args.accept input = .ok params ↔ args.params? = .ok params ∧ input.Conforms params.toJson := by
  cases hparams : args.params? with
  | error error => simp [accept, hparams]
  | ok found =>
    rw [accept_of_params? hparams, Except.ok.injEq]
    constructor
    · intro h
      split at h
      · contradiction
      · rename_i hcheck
        obtain rfl := Except.ok.inj h
        exact ⟨rfl, Schema.check_eq_ok_iff.mp hcheck⟩
    · rintro ⟨rfl, hconforms⟩
      rw [Schema.check_eq_ok_iff.mpr hconforms]

/-- Alike arguments are accepted together, and sent as parameters that are alike. -/
theorem accept_alike {input : Schema} {a b : Arguments} {params : Params} (h : a.Alike b)
    (ha : a.accept input = .ok params) :
    ∃ others, b.accept input = .ok others ∧ Json.Alike params.toJson others.toJson := by
  obtain ⟨hparams, hconforms⟩ := accept_eq_ok_iff.mp ha
  obtain ⟨others, hothers, halike⟩ := params?_alike h hparams
  exact ⟨others, accept_eq_ok_iff.mpr ⟨hothers, hconforms.alike halike⟩, halike⟩

end Arguments

/-! ## Reading a response -/

/-- The result is looked up in the members as they were before the error was taken out. -/
theorem Response.get?_result_swapRemove (members : List (String × Json)) :
    Entries.get? (Entries.swapRemove members "error") "result" =
      Entries.get? members "result" :=
  Entries.get?_swapRemove_of_ne members (by decide)

/-- A response that carries a result has it under its name. -/
theorem Response.get?_result_of_result? {response result : Json}
    (h : result? response = .ok result) : response.get? "result" = some result := by
  cases response with
  | object members =>
    rw [result?, get?_result_swapRemove] at h
    split at h
    · exact nomatch h
    · split at h
      · rename_i hget
        rw [← Except.ok.inj h]
        exact hget
      · exact nomatch h
  | _ => exact nomatch h

/-- A response answers a call with its result, projected to the output. -/
theorem Response.answer_eq_ok_iff {output : Schema} {response answer : Json} :
    Response.answer output response = .ok answer ↔
      ∃ result, result? response = .ok result ∧ output.project result = answer := by
  unfold Response.answer
  cases result? response with
  | error error => simp [Except.map]
  | ok result => simp [Except.map]

/-! ## Calling -/

namespace Model

variable {σ : Type}

/-- A call has params if its operation is declared and accepts the arguments. -/
theorem params_eq_ok_iff {model : Model} {name : String} {args : Arguments} {params : Params} :
    model.params name args = .ok params ↔
      ∃ operation, model.operation? name = some operation ∧
        args.accept operation.input = .ok params := by
  unfold Model.params findOperation
  cases model.operation? name <;> simp

/-- A response to a declared operation is read by the output of the operation. -/
theorem answer_eq_of_operation? {model : Model} {name : String} {operation : Operation}
    (h : model.operation? name = some operation) (response : Json) :
    model.answer name response = Response.answer operation.output response := by
  rw [answer, findOperation, h]

/-- A call whose parameters are refused sends nothing. -/
theorem call_of_params_error {model : Model} {transport : Transport σ} {name : String}
    {args : Arguments} {error : CallError} (h : model.params name args = .error error) (state : σ) :
    model.call transport name args state = (.error error, state) := by
  rw [call, h]

/-- A call whose parameters are accepted sends them, and reads the response. -/
theorem call_of_params_ok {model : Model} {transport : Transport σ} {name : String}
    {args : Arguments} {params : Params} (h : model.params name args = .ok params) (state : σ) :
    model.call transport name args state =
      ((transport.send name params.toJson state).1.bind (model.answer name),
        (transport.send name params.toJson state).2) := by
  rw [call, h]
  dsimp only
  cases transport.send name params.toJson state with
  | mk outcome after => cases outcome <;> rfl

/-- A call succeeds when the operation is declared, the arguments are accepted, and the transport
hands back a response with a result; its answer is that result, projected. -/
theorem call_eq_ok_iff {model : Model} {transport : Transport σ} {name : String} {args : Arguments}
    {state : σ} {answer : Json} :
    (model.call transport name args state).1 = .ok answer ↔
      ∃ operation params response result, model.operation? name = some operation ∧
        args.accept operation.input = .ok params ∧
        (transport.send name params.toJson state).1 = .ok response ∧
        Response.result? response = .ok result ∧ operation.output.project result = answer := by
  constructor
  · intro h
    -- a call passes the check, the transport and the reading of the response, or stops there
    cases hparams : model.params name args with
    | error error => rw [call_of_params_error hparams] at h; exact nomatch h
    | ok params =>
      rw [call_of_params_ok hparams] at h
      obtain ⟨operation, hoperation, haccept⟩ := params_eq_ok_iff.mp hparams
      cases hsend : (transport.send name params.toJson state).1 with
      | error error => rw [hsend] at h; exact nomatch h
      | ok response =>
        rw [hsend] at h
        have hanswer : model.answer name response = .ok answer := h
        rw [answer_eq_of_operation? hoperation] at hanswer
        obtain ⟨result, hresult, hproject⟩ := Response.answer_eq_ok_iff.mp hanswer
        exact ⟨operation, params, response, result, hoperation, haccept, hsend, hresult, hproject⟩
  · rintro ⟨operation, params, response, result, hoperation, haccept, hsend, hresult, hproject⟩
    rw [call_of_params_ok (params_eq_ok_iff.mpr ⟨operation, hoperation, haccept⟩), hsend]
    show model.answer name response = .ok answer
    rw [answer_eq_of_operation? hoperation]
    exact Response.answer_eq_ok_iff.mpr ⟨result, hresult, hproject⟩

end Model

end SchemaCall
