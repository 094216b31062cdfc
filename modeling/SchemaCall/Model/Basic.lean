import SchemaCall.Entries
import SchemaCall.Schema.Basic

/-!
# Models

A model describes a remote interface: where it is reached, and the operations it offers, in
declaration order. Each operation has a schema for what it takes and one for what it answers.
-/

namespace SchemaCall

/-- One operation of a model: its own name, what it does in words, and the schemas of its arguments
and of its result. -/
structure Operation where
  name : String
  documentation : String
  input : Schema
  output : Schema
  deriving DecidableEq, Inhabited

/-- A remote interface. -/
structure Model where
  endpoint : String
  operations : Table Operation
  deriving DecidableEq, Inhabited

/-- The two schemas of an operation. -/
inductive Part where
  | input
  | output
  deriving DecidableEq, Repr

/-- The name of a part, as it is written in a model document. -/
def Part.name : Part → String
  | .input => "input"
  | .output => "output"

/-- The schema of one part of an operation. -/
def Operation.schema (operation : Operation) : Part → Schema
  | .input => operation.input
  | .output => operation.output

/-- The operation under another name. -/
def Operation.named (operation : Operation) (name : String) : Operation :=
  { operation with name }

/-- A name does not change what an operation takes and gives. -/
@[simp] theorem Operation.schema_named (operation : Operation) (name : String) (part : Part) :
    (operation.named name).schema part = operation.schema part := by
  cases part <;> rfl

/-- Are two operations equal up to the order of structure members? -/
def Operation.equivalent (a b : Operation) : Bool :=
  decide (a.name = b.name) && decide (a.documentation = b.documentation) &&
    a.input.equivalent b.input && a.output.equivalent b.output

namespace Model

/-- The model of an interface without operations. -/
def ofEndpoint (endpoint : String) : Model := ⟨endpoint, ∅⟩

/-- Declare an operation, in place if its name is already declared. The name serves both as key and
as name of the operation. -/
def withOperation (model : Model) (name documentation : String) (input output : Schema) : Model :=
  { model with operations := model.operations.set name ⟨name, documentation, input, output⟩ }

/-- The operation with the given name. -/
def operation? (model : Model) (name : String) : Option Operation :=
  model.operations.get? name

/-- The names of the operations in declaration order. -/
def operationNames (model : Model) : List String :=
  model.operations.names

/-- Are two models equal up to the order of operations and of structure members? -/
def equivalent (a b : Model) : Bool :=
  decide (a.endpoint = b.endpoint) && decide (a.operations.size = b.operations.size) &&
    a.operations.entries.all fun (name, operation) =>
      match b.operations.get? name with
      | some other => operation.equivalent other
      | none => false

end Model

/-! ## Errors -/

/-- A failure to load a model. -/
inductive ModelError where
  | load (path reason : String) (hint : Option String)
  | invalid (reason : String)
  | badSchema (path reason : String)
  | parse (reason : String)
  | internal (reason : String)
  deriving DecidableEq, Repr

namespace ModelError

/-- The wording of a model error. -/
def message : ModelError → String
  | .load path reason hint =>
    "Failed to load API model from " ++ path ++ ": " ++ reason ++
      (match hint with
        | some hint => "\n Hint: " ++ hint
        | none => "")
  | .invalid reason => "API model validation failed: " ++ reason
  | .badSchema path reason => "Invalid schema at " ++ path ++ ": " ++ reason
  | .parse reason => "API model parse error: " ++ reason
  | .internal reason => "Internal model error: " ++ reason

/-- Attach a hint to a document that could not be obtained; other errors have none. -/
def withHint (hint : String) : ModelError → ModelError
  | .load path reason _ => .load path reason (some hint)
  | error => error

end ModelError

end SchemaCall
