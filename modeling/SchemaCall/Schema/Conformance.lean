import SchemaCall.Json.Basic
import SchemaCall.Json.Printer
import SchemaCall.Schema.Basic

/-!
# Conformance of values to schemas, and projection

`violations` lists everything that is wrong with a value under a schema, walking the value depth
first in document order. `check` stops at the first violation. An undeclared member of an object is
a violation and is not looked into; a value under a node of unknown kind always is one.

A violation carries the path of its place: the starting path, `.name` for each member and `[index]`
for each item on the way.

A result is shaped by the output schema: members of an object that the structure does not declare
are dropped, at every depth. Nothing else is changed, and nothing is refused: where value and schema
disagree, and below scalars and nodes of unknown kind, the value passes as it is (`project`).
-/

namespace SchemaCall

/-- One way in which a value disagrees with a schema. -/
inductive Violation where
  | unknownParameter (name path : String)
  | typeMismatch (path : String) (value : Json) (actual expected : String)
  | unsupportedKind (tag path : String)
  deriving DecidableEq

/-- The violation of a value that is of another kind than expected; it names the kind that the value
is of. -/
def Violation.mismatch (path : String) (value : Json) (expected : String) : Violation :=
  .typeMismatch path value value.kindName expected

/-- The wording of a violation. -/
def Violation.message : Violation → String
  | .unknownParameter name path => "Got unexpected parameter '" ++ name ++ "' at " ++ path
  | .typeMismatch path value actual expected =>
    "Param " ++ value.compact ++ " at " ++ path ++ " is of type " ++ actual ++
      ", expecting parameter of type " ++ expected ++ " instead"
  | .unsupportedKind tag path => "Unsupported schema kind '" ++ tag ++ "' at " ++ path

/-- The path of the member of the object at `path`. -/
def memberPath (path name : String) : String :=
  path ++ "." ++ name

/-- The path of an item of the array at `path`. -/
def itemPath (path : String) (index : Nat) : String :=
  path ++ "[" ++ toString index ++ "]"

/-- Is the value of the scalar kind? -/
def Scalar.accepts : Scalar → Json → Bool
  | .string, .string _ => true
  | .integer, .number n => n.isInteger
  | .boolean, .bool _ => true
  | _, _ => false

namespace Schema

mutual

/-- Everything that is wrong with a value standing at `path`. -/
def violations : Schema → Json → (path : String) → List Violation
  | .struct members _, .object fields, path => fieldViolations members fields path
  | .struct .., value, path => [.mismatch path value "structure"]
  | .list element _, .array items, path => itemViolations element items 0 path
  | .list .., value, path => [.mismatch path value "list"]
  | .scalar kind _, value, path =>
    if kind.accepts value then [] else [.mismatch path value kind.tag]
  | .unsupported tag _, _, path => [.unsupportedKind tag path]

/-- Everything that is wrong with the members of an object standing at `path`. -/
def fieldViolations :
    List (String × Schema) → List (String × Json) → (path : String) → List Violation
  | _, [], _ => []
  | members, (name, field) :: rest, path =>
    (match Entries.get? members name with
      | none => [.unknownParameter name path]
      | some member => violations member field (memberPath path name)) ++
      fieldViolations members rest path

/-- Everything that is wrong with the items of an array standing at `path`, from the given index. -/
def itemViolations : Schema → List Json → (index : Nat) → (path : String) → List Violation
  | _, [], _, _ => []
  | element, item :: rest, index, path =>
    violations element item (itemPath path index) ++ itemViolations element rest (index + 1) path

end

mutual

/-- Check a value standing at `path`, stopping at the first violation. -/
def check : Schema → Json → (path : String) → Except Violation Unit
  | .struct members _, .object fields, path => checkFields members fields path
  | .struct .., value, path => .error (.mismatch path value "structure")
  | .list element _, .array items, path => checkItems element items 0 path
  | .list .., value, path => .error (.mismatch path value "list")
  | .scalar kind _, value, path =>
    if kind.accepts value then .ok () else .error (.mismatch path value kind.tag)
  | .unsupported tag _, _, path => .error (.unsupportedKind tag path)

/-- Check the members of an object standing at `path`. -/
def checkFields :
    List (String × Schema) → List (String × Json) → (path : String) → Except Violation Unit
  | _, [], _ => .ok ()
  | members, (name, field) :: rest, path =>
    match Entries.get? members name with
    | none => .error (.unknownParameter name path)
    | some member =>
      match check member field (memberPath path name) with
      | .ok () => checkFields members rest path
      | .error violation => .error violation

/-- Check the items of an array standing at `path`, from the given index. -/
def checkItems : Schema → List Json → (index : Nat) → (path : String) → Except Violation Unit
  | _, [], _, _ => .ok ()
  | element, item :: rest, index, path =>
    match check element item (itemPath path index) with
    | .ok () => checkItems element rest (index + 1) path
    | .error violation => .error violation

end

end Schema

end SchemaCall

namespace SchemaCall.Schema

/-! ## Projection -/

mutual

/-- The value without the members that the schema does not declare. -/
def project : Schema → Json → Json
  | .struct members _, .object fields => .object (projectFields members fields)
  | .list element _, .array items => .array (projectItems element items)
  | _, value => value

/-- The declared ones of the members of an object, each projected. -/
def projectFields : List (String × Schema) → List (String × Json) → List (String × Json)
  | _, [] => []
  | members, (name, field) :: rest =>
    match Entries.get? members name with
    | none => projectFields members rest
    | some member => (name, project member field) :: projectFields members rest

/-- The items of an array, each projected. -/
def projectItems : Schema → List Json → List Json
  | _, [] => []
  | element, item :: rest => project element item :: projectItems element rest

end

end SchemaCall.Schema
