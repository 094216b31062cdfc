import SchemaCall.Model.Basic
import SchemaCall.Schema.Codec

/-!
# Models in JSON

`Model.toJson` writes a model and `Model.ofJson` reads one. The operations are an object, each under
its name; an operation without documentation has the empty one, and a model without operations has
none. What else stands in the document is ignored.

The name of an operation is not written with it. It is empty when an operation is read, and filled
in from the key once the whole document is (`Model.ofContent`).
-/

namespace SchemaCall

/-- Why a document describes no model. -/
inductive ModelMisfit where
  | shape (error : Json.ShapeError)
  | node (error : Schema.NodeError)
  deriving DecidableEq

/-- The wording of a misfit. -/
def ModelMisfit.message : ModelMisfit → String
  | .shape error => error.message
  | .node error => error.message

/-! ## Writing -/

/-- The JSON form of an operation, without its name. -/
def Operation.toJson (operation : Operation) : Json :=
  .object [("documentation", .string operation.documentation),
    ("input", operation.input.toJson), ("output", operation.output.toJson)]

/-- The JSON form of a model. -/
def Model.toJson (model : Model) : Json :=
  .object [("endpoint_url", .string model.endpoint),
    ("operations",
      .object (model.operations.entries.map fun entry => (entry.1, entry.2.toJson)))]

/-! ## Reading -/

namespace Operation

/-- The record that an operation is. -/
def shape : Json.RecordShape :=
  ⟨"OperationModel", [("documentation", false), ("input", true), ("output", true)]⟩

/-- The fields of an operation that were read so far. -/
structure Draft where
  documentation : String
  input : Option Schema
  output : Option Schema

/-- Read one field of an operation. -/
def Draft.take (draft : Draft) (name : String) (value : Json) : Except ModelMisfit Draft :=
  match name with
  | "documentation" =>
    match Json.expectString value with
    | .ok documentation => .ok { draft with documentation }
    | .error error => .error (.shape error)
  | "input" =>
    match Schema.ofJson value with
    | .ok input => .ok { draft with input := some input }
    | .error error => .error (.node error)
  | "output" =>
    match Schema.ofJson value with
    | .ok output => .ok { draft with output := some output }
    | .error error => .error (.node error)
  | _ => .ok draft

/-- The operation with all its fields. -/
def Draft.finish (draft : Draft) : Except ModelMisfit Operation :=
  match draft.input, draft.output with
  -- the name is filled in from the key
  | some input, some output => .ok ⟨"", draft.documentation, input, output⟩
  | none, _ => .error (.shape (.missingField "input"))
  | some _, none => .error (.shape (.missingField "output"))

/-- The operation that a value describes; it has no name yet. -/
def ofJson (value : Json) : Except ModelMisfit Operation :=
  match Json.readRecord shape .shape Draft.take ⟨"", none, none⟩ value with
  | .ok draft => draft.finish
  | .error error => .error error

end Operation

namespace Model

/-- The record that a model is. -/
def shape : Json.RecordShape :=
  ⟨"ApiModelDocument", [("endpoint_url", true), ("operations", false)]⟩

/-- Read named operations. -/
def readOperations : List (String × Json) → Except ModelMisfit (List (String × Operation))
  | [] => .ok []
  | (name, value) :: rest =>
    match Operation.ofJson value with
    | .error error => .error error
    | .ok operation =>
      match readOperations rest with
      | .error error => .error error
      | .ok operations => .ok ((name, operation) :: operations)

/-- What a document says: an endpoint, and operations that have a key but no name yet. -/
structure Content where
  endpoint : String
  operations : Table Operation

/-- Read one field of a document. -/
def Content.take (content : Content) (name : String) (value : Json) :
    Except ModelMisfit Content :=
  match name with
  | "endpoint_url" =>
    match Json.expectString value with
    | .ok endpoint => .ok { content with endpoint }
    | .error error => .error (.shape error)
  | "operations" =>
    match value with
    | .object members =>
      match readOperations members with
      | .ok operations => .ok { content with operations := .ofList operations }
      | .error error => .error error
    | other => .error (.shape (.wrongType other "a map"))
  | _ => .ok content

/-- The model of a document: every operation takes its name from its key. -/
def ofContent (content : Content) : Model :=
  ⟨content.endpoint, .ofList (content.operations.entries.map fun entry =>
    (entry.1, entry.2.named entry.1))⟩

/-- The model that a document describes. -/
def ofJson (document : Json) : Except ModelMisfit Model :=
  (Json.readRecord shape .shape Content.take ⟨"", ∅⟩ document).map ofContent

end Model

end SchemaCall
