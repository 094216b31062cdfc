import SchemaCall.Json.Printer
import SchemaCall.Model.Basic
import SchemaCall.Schema.Codec

/-!
# Rules on model documents

A document is checked before it is read as a model. The first part is a set of rules on its shape,
kept as data (`DocumentRule.model`); every breach is listed, with a pointer to its place. The second
part, reached only by documents without a breach, reads each input and output as a schema and stops
at the first that is none.
-/

namespace SchemaCall

/-- A rule on the shape of a value. -/
inductive DocumentRule where
  | text
  | nonEmptyText
  | optionalObject
  | mapOf (rule : DocumentRule)
  | record (required : List String) (properties : List (String × DocumentRule))

/-- What a breach of a rule is about. -/
inductive BreachCause where
  | wrongKind (value : Json) (kinds : List String)
  | missing (name : String)
  | emptyText
  deriving DecidableEq

/-- The wording of a breach, without its place. -/
def BreachCause.message : BreachCause → String
  | .wrongKind value kinds =>
    value.compact ++ " is not of type" ++ (if 1 < kinds.length then "s " else " ") ++
      ", ".intercalate (kinds.map fun kind => "\"" ++ kind ++ "\"")
  | .missing name => (Json.string name).compact ++ " is a required property"
  | .emptyText => "\"\" is shorter than 1 character"

/-- A breach of a rule: its cause and the names of the members on the way to it. -/
structure Breach where
  cause : BreachCause
  path : List String
  deriving DecidableEq

/-- A name inside a pointer: `~` and `/` are escaped. -/
def escapePointer (name : String) : String :=
  String.ofList <| name.toList.flatMap fun c =>
    match c with
    | '~' => ['~', '0']
    | '/' => ['~', '1']
    | c => [c]

/-- The wording of a breach. -/
def Breach.message (breach : Breach) : String :=
  breach.cause.message ++ " (at " ++
    String.join (breach.path.map fun name => "/" ++ escapePointer name) ++ ")"

namespace DocumentRule

mutual

/-- The breaches of a rule by the value at a place. -/
def breaches : DocumentRule → Json → (path : List String) → List Breach
  | .text, value, path =>
    match value with
    | .string _ => []
    | other => [⟨.wrongKind other ["string"], path⟩]
  | .nonEmptyText, value, path =>
    match value with
    | .string content => if content.isEmpty then [⟨.emptyText, path⟩] else []
    | other => [⟨.wrongKind other ["string"], path⟩]
  | .optionalObject, value, path =>
    match value with
    | .null | .object _ => []
    | other => [⟨.wrongKind other ["null", "object"], path⟩]
  | .mapOf rule, value, path =>
    match value with
    | .object members =>
      members.flatMap fun (name, member) => rule.breaches member (path ++ [name])
    | other => [⟨.wrongKind other ["object"], path⟩]
  | .record required properties, value, path =>
    match value with
    | .object members =>
      ((required.filter fun name => (Entries.get? members name).isNone).map fun name =>
        ⟨.missing name, path⟩) ++ propertyBreaches properties members path
    | other => [⟨.wrongKind other ["object"], path⟩]

/-- The breaches by the known members of an object. -/
def propertyBreaches : List (String × DocumentRule) → List (String × Json) → (path : List String) →
    List Breach
  | [], _, _ => []
  | (name, rule) :: rest, members, path =>
    (match Entries.get? members name with
      | some member => rule.breaches member (path ++ [name])
      | none => []) ++ propertyBreaches rest members path

end

/-- The rule on inputs and outputs. -/
def schemaNode : DocumentRule :=
  .record ["type"]
    [("type", .nonEmptyText), ("documentation", .text), ("members", .optionalObject)]

/-- The rule on operations. -/
def operation : DocumentRule :=
  .record ["input", "output"]
    [("documentation", .text), ("input", schemaNode), ("output", schemaNode)]

/-- The rule on documents. -/
def model : DocumentRule :=
  .record ["endpoint_url", "operations"]
    [("endpoint_url", .nonEmptyText), ("operations", .mapOf operation)]

end DocumentRule

/-! ## Documents -/

/-- The two parts of an operation that are schemas, in the order in which they are read. -/
def schemaParts : List String := ["input", "output"]

/-- Read the given parts of an operation as schemas, stopping at the first that is none. -/
def checkParts (name : String) (operation : Json) : List String → Except ModelError Unit
  | [] => .ok ()
  | part :: rest =>
    match operation.get? part with
    | none => checkParts name operation rest
    | some node =>
      match Schema.ofJson node with
      | .ok _ => checkParts name operation rest
      | .error error =>
        .error (.badSchema ("operations." ++ name ++ "." ++ part) error.message)

/-- Read the inputs and outputs of named operations, stopping at the first that is no schema. -/
def checkOperations : List (String × Json) → Except ModelError Unit
  | [] => .ok ()
  | (name, operation) :: rest =>
    match checkParts name operation schemaParts with
    | .ok () => checkOperations rest
    | .error error => .error error

/-- The named operations of a document. -/
def documentOperations (document : Json) : List (String × Json) :=
  match document.get? "operations" with
  | some (.object members) => members
  | _ => []

/-- Check a document: the rules on its shape, then its inputs and outputs. -/
def checkDocument (document : Json) : Except ModelError Unit :=
  match DocumentRule.model.breaches document [] with
  | [] => checkOperations (documentOperations document)
  | breaches =>
    .error (.invalid ("JSON Schema validation failed:\n  - " ++
      "\n  - ".intercalate (breaches.map Breach.message)))

end SchemaCall
