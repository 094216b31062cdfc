import SchemaCall.Call.Dispatch
import SchemaCall.Model.Basic
import SchemaCall.Text.Quoted

/-!
# Clients

A client offers the operations of a model by name, each with its documentation. Calls of other names
are refused at once; all others go on to what answers them.
-/

namespace SchemaCall

/-! ## Documentation of operations

What a reader needs to know to call an operation: its parameters, one for each member of a structure
or one that repeats for a list, and its result. `signature` says it in one line and `help` in full.
-/

/-- One parameter of an operation. -/
structure ParamDoc where
  name : String
  typeName : String
  documentation : String
  isVariadic : Bool
  deriving DecidableEq, Repr

/-- The name and type of a parameter. -/
def ParamDoc.signature (param : ParamDoc) : String :=
  param.name ++ (if param.isVariadic then "...: " else ": ") ++ param.typeName

/-- The line about a parameter, without its indentation. -/
def ParamDoc.help (param : ParamDoc) : String :=
  param.name ++ " (" ++ param.typeName ++ (if param.isVariadic then "(s)" else "") ++ ")" ++
    (if param.documentation.isEmpty then "" else ": " ++ param.documentation)

/-- The documentation of an operation. -/
structure OperationDoc where
  name : String
  summary : String
  params : List ParamDoc
  returnType : String
  returnDocumentation : String
  deriving DecidableEq, Repr

namespace OperationDoc

/-- The parameters that an input schema asks for. -/
def paramsOf : Schema → List ParamDoc
  | .list element documentation =>
    [⟨"args", element.typeName, documentation.getD "", true⟩]
  | .struct members _ =>
    members.map fun member => ⟨member.1, member.2.typeName, member.2.documentation, false⟩
  | _ => []

/-- The documentation of an operation. -/
def of (operation : Operation) : OperationDoc :=
  ⟨operation.name, operation.documentation, paramsOf operation.input, operation.output.typeName,
    operation.output.documentation⟩

/-- The operation in one line. -/
def signature (doc : OperationDoc) : String :=
  doc.name ++ "(" ++ ", ".intercalate (doc.params.map ParamDoc.signature) ++ ") -> " ++
    doc.returnType

/-- The operation in full. -/
def help (doc : OperationDoc) : String :=
  doc.signature ++ "\n" ++
    (if doc.summary.isEmpty then "" else "    " ++ doc.summary ++ "\n") ++
    (if doc.params.isEmpty then ""
      else
        "\n    Parameters:\n" ++
          String.join (doc.params.map fun param => "        " ++ param.help ++ "\n")) ++
    "\n    Returns:\n        " ++ doc.returnType ++
    (if doc.returnDocumentation.isEmpty then "" else ": " ++ doc.returnDocumentation) ++ "\n"

end OperationDoc

/-! ## Clients -/

/-- The operations that are offered to callers. -/
structure Client where
  model : Model
  docs : Table OperationDoc

/-- One operation of a client, looked up once and for all. -/
structure Binding where
  name : String
  deriving DecidableEq, Repr

/-- A binding in messages about it. -/
def Binding.describe (binding : Binding) : String :=
  "OperationBinding \x7b name: " ++ Text.quote binding.name ++ " \x7d"

namespace Client

/-- The client that offers the operations of a model, each by the name that it bears. -/
def ofModel (model : Model) : Client :=
  ⟨model, .ofList (model.operations.entries.map fun entry =>
    (entry.2.name, OperationDoc.of entry.2))⟩

/-- The names of the operations in declaration order. -/
def operationNames (client : Client) : List String := client.docs.names

/-- Does the client offer the operation? -/
def hasOperation (client : Client) (name : String) : Bool := client.docs.contains name

/-- The documentation of an operation. -/
def doc? (client : Client) (name : String) : Option OperationDoc := client.docs.get? name

/-- Look an operation up. -/
def bind (client : Client) (name : String) : Except CallError Binding :=
  if client.hasOperation name then .ok ⟨name⟩ else .error (.unknownOperation name)

/-- The bindings of all operations. -/
def bindings (client : Client) : List Binding := client.operationNames.map Binding.mk

/-- The documentation of all operations. -/
def help (client : Client) : String :=
  "\n".intercalate (client.docs.entries.map fun entry => entry.2.help)

/-- The client in messages about it. -/
def describe (client : Client) : String :=
  "DynamicClient \x7b endpoint_url: " ++ Text.quote client.model.endpoint ++ ", operations: [" ++
    ", ".intercalate (client.operationNames.map Text.quote) ++ "] \x7d"

/-- Call an operation that the client offers. -/
def call {σ : Type} (client : Client) (inner : Caller σ) : Caller σ :=
  fun name args state =>
    if client.hasOperation name then inner name args state
    else (.error (.unknownOperation name), state)

/-- Look an operation up and call it. -/
def callBound {σ : Type} (client : Client) (inner : Caller σ) : Caller σ :=
  fun name args state =>
    match client.bind name with
    | .ok binding => client.call inner binding.name args state
    | .error error => (.error error, state)

end Client

end SchemaCall
