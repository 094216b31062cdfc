import SchemaCall.Json.Basic
import SchemaCall.Text.Quoted

/-!
# Records in JSON

A record with named fields may be written as an object, whose members are read in document order and
whose other members are ignored, or as an array of the fields in their declared order. Trailing
fields with a default may be left out of the array, and any field with a default out of the object.

`readRecord` walks over the fields that are present and hands each to the caller, who keeps what was
read so far; the first failure ends the walk. Fields that are missing are noticed after that.
`writeRecord` writes an object, without the fields that have no value.
-/

namespace SchemaCall.Json

/-- How a value disagrees with the shape that is read. -/
inductive ShapeError where
  | wrongType (found : Json) (expected : String)
  | missingField (name : String)
  | tooShort (length : Nat) (expected : String)
  | tooLong (length : Nat)
  deriving DecidableEq

/-- A value as it is named in messages about its kind. -/
def describe : Json → String
  | .null => "null"
  | .bool value => "boolean `" ++ (if value then "true" else "false") ++ "`"
  | .number (.integer value _) => "integer `" ++ String.ofList (Number.writeInt value) ++ "`"
  | .number (.double value) => "floating point `" ++ String.ofList value.write ++ "`"
  | .string value => "string " ++ Text.quote value
  | .array _ => "sequence"
  | .object _ => "map"

/-- The wording of a shape error. -/
def ShapeError.message : ShapeError → String
  | .wrongType found expected => "invalid type: " ++ found.describe ++ ", expected " ++ expected
  | .missingField name => "missing field `" ++ name ++ "`"
  | .tooShort length expected =>
    "invalid length " ++ toString length ++ ", expected " ++ expected
  | .tooLong length =>
    "invalid length " ++ toString length ++ ", expected fewer elements in array"

/-- The text of a string, which is expected. -/
def expectString : Json → Except ShapeError String
  | .string value => .ok value
  | value => .error (.wrongType value "a string")

/-- The text of a string, or nothing for the null value. -/
def expectOptionalString : Json → Except ShapeError (Option String)
  | .null => .ok none
  | value => (expectString value).map some

/-- A record: what it is called in messages, and its fields in declared order. -/
structure RecordShape where
  name : String
  fields : List (String × Bool)

namespace RecordShape

/-- The record, as messages name it. -/
def expected (shape : RecordShape) : String :=
  "struct " ++ shape.name

/-- The record and its size, as messages name them. -/
def expectedLength (shape : RecordShape) : String :=
  shape.expected ++ " with " ++ toString shape.fields.length ++ " elements"

/-- The fields that have to be present, in declared order. -/
def required (shape : RecordShape) : List String :=
  (shape.fields.filter (·.2)).map (·.1)

end RecordShape

/-- Read the fields of a record one after the other into a state, through `take`. -/
def readRecord {σ ε : Type} (shape : RecordShape) (fail : ShapeError → ε)
    (take : σ → String → Json → Except ε σ) (start : σ) : Json → Except ε σ
  | .object members => do
    let state ← members.foldlM (fun state member => take state member.1 member.2) start
    match shape.required.find? (fun name => name ∉ Entries.names members) with
    | some name => .error (fail (.missingField name))
    | none => .ok state
  | .array items => do
    let state ← (shape.fields.zip items).foldlM (fun state pair => take state pair.1.1 pair.2) start
    match (shape.fields.zipIdx.drop items.length).find? (fun field => field.1.2) with
    | some field => .error (fail (.tooShort field.2 shape.expectedLength))
    | none =>
      if shape.fields.length < items.length then .error (fail (.tooLong items.length))
      else .ok state
  | value => .error (fail (.wrongType value shape.expected))

/-- Write a record as an object: the fields that have a value, in declared order. -/
def writeRecord (shape : RecordShape) (field? : String → Option Json) : Json :=
  .object (shape.fields.filterMap fun field =>
    (field? field.1).map fun value => (field.1, value))

end SchemaCall.Json
