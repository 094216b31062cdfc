import SchemaCall.Call.Arguments
import SchemaCall.Call.Error
import SchemaCall.Model.Basic
import SchemaCall.Schema.Conformance

/-!
# Calling operations

A call looks its operation up in the model, checks the arguments, sends one request, and shapes the
response. It stops at the first of these that fails; nothing is sent unless the arguments conform.
-/

namespace SchemaCall

/-! ## Transports

A transport sends one request and hands back the raw response. It may keep a state from one request
to the next; everything that calls it passes that state along.
-/

/-- A way to send requests, with a state of its own. -/
structure Transport (σ : Type) where
  name : String
  send : (method : String) → (params : Json) → σ → Except CallError Json × σ

/-- Something that answers calls of operations and keeps a state between them. -/
abbrev Caller (σ : Type) :=
  (operation : String) → (args : Arguments) → σ → Except CallError Json × σ

end SchemaCall

namespace SchemaCall.Response

/-! ## Responses

A response is an object with a result or an error. An error other than null wins over a result; a
result, null included, is projected through the output schema. Other members do not matter.
-/

/-- The failure that an error member of a response reports. -/
def remoteFailure (error : Json) : CallError :=
  let message :=
    match error.get? "message" with
    | some (.string message) => message
    | some other => other.compact
    | none => error.string?.getD error.compact
  let code :=
    match error.get? "code" with
    | some (.number code) => code.toInt64?
    | _ => none
  .remoteFailure message code (error.get? "data")

/-- The result that a response carries, not yet projected. It is taken from the members that are
left when the error was taken out. -/
def result? : Json → Except CallError Json
  | .object members =>
    let others := Entries.swapRemove members "error"
    match (Entries.get? members "error").filter (fun error => !error.isNull) with
    | some error => .error (remoteFailure error)
    | none =>
      match Entries.get? others "result" with
      | some result => .ok result
      | none =>
        .error (.malformedResponse "response carries neither 'result' nor 'error'")
  | other => .error (.malformedResponse ("expected a response object, got " ++ other.kindName))

/-- The answer of a call: the result of its response, projected through the output schema. -/
def answer (output : Schema) (response : Json) : Except CallError Json :=
  (result? response).map output.project

end SchemaCall.Response

namespace SchemaCall.Model

/-! ## Calls -/

/-- The operation with the given name; it has to be declared. -/
def findOperation (model : Model) (name : String) : Except CallError Operation :=
  match model.operation? name with
  | some operation => .ok operation
  | none => .error (.unknownOperation name)

/-- The parameters that a call of an operation sends. -/
def params (model : Model) (name : String) (args : Arguments) : Except CallError Params :=
  match model.findOperation name with
  | .ok operation => args.accept operation.input
  | .error error => .error error

/-- What a response to a call of an operation answers. -/
def answer (model : Model) (name : String) (response : Json) : Except CallError Json :=
  match model.findOperation name with
  | .ok operation => Response.answer operation.output response
  | .error error => .error error

/-- Call an operation over a transport. -/
def call {σ : Type} (model : Model) (transport : Transport σ) : Caller σ :=
  fun name args state =>
    match model.params name args with
    | .error error => (.error error, state)
    | .ok params =>
      match transport.send name params.toJson state with
      | (.ok response, state) => (model.answer name response, state)
      | (.error error, state) => (.error error, state)

end SchemaCall.Model
