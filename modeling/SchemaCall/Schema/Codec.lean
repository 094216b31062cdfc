import SchemaCall.Json.Record
import SchemaCall.Schema.Basic

/-!
# Schemas in JSON

A node is written as an object with its tag under `type`, then its members, then its documentation
if it has any. `Schema.toJson` writes a schema and `Schema.ofJson` reads one. A schema that stands
on its own is written by the rules of records instead (`Schema.toRecord`), and what is below it by
`Schema.toJson`.

What is under `members` matters for structures and lists alone: the members of a structure by name,
or the element of a list. A node of any other kind may carry anything there. A failure names the
first bad node, before anything below it is looked at, and the way to it.
-/

namespace SchemaCall.Schema

/-- One step from a node to a node below it. -/
inductive Step where
  | member (name : String)
  | element
  deriving DecidableEq

/-- What is wrong below a node, as it is told one step above. -/
def Step.wrap : Step → (reason : String) → String
  | .member name, reason => "member '" ++ name ++ "': " ++ reason
  | .element, reason => "list element: " ++ reason

/-- What is wrong with a node itself. -/
inductive NodeComplaint where
  | shape (error : Json.ShapeError)
  | membersNotObject (kind : String)
  | missingElement
  deriving DecidableEq

/-- The wording of a complaint. -/
def NodeComplaint.message : NodeComplaint → String
  | .shape error => error.message
  | .membersNotObject kind => "structure members must be an object, found " ++ kind
  | .missingElement => "list node requires a 'members' element schema"

/-- Why a value describes no schema: the way to the first bad node, and what is wrong there. -/
structure NodeError where
  steps : List Step
  complaint : NodeComplaint
  deriving DecidableEq

namespace NodeError

/-- A complaint about the root. -/
def own (complaint : NodeComplaint) : NodeError := ⟨[], complaint⟩

/-- The error seen from one step above. -/
def under (error : NodeError) (step : Step) : NodeError :=
  ⟨step :: error.steps, error.complaint⟩

/-- The wording of an error: the complaint about the bad node, wrapped at every step on the way back
to the root. -/
def message (error : NodeError) : String :=
  error.steps.foldr Step.wrap error.complaint.message

end NodeError

/-! ## Writing -/

mutual

/-- The JSON form of a schema. -/
def toJson : Schema → Json
  | .scalar kind documentation => nodeJson kind.tag none documentation
  | .list element documentation => nodeJson "list" (some element.toJson) documentation
  | .struct members documentation =>
    nodeJson "structure" (some (.object (membersToJson members))) documentation
  | .unsupported tag documentation => nodeJson tag none documentation

/-- The JSON form of the members of a structure. -/
def membersToJson : List (String × Schema) → List (String × Json)
  | [] => []
  | (name, member) :: rest => (name, member.toJson) :: membersToJson rest

/-- The JSON form of a node with the given parts. -/
def nodeJson (tag : String) (members : Option Json) (documentation : Option String) : Json :=
  .object (("type", .string tag) ::
    ((members.map fun value => ("members", value)).toList ++
      (documentation.map fun text => ("documentation", .string text)).toList))

end

/-! ## Reading -/

/-- The parts of a node that are read before its members. -/
structure Head where
  tag : String
  documentation : Option String

/-- The record that a node is. -/
def nodeShape : Json.RecordShape :=
  ⟨"RawSchemaNode", [("type", true), ("members", false), ("documentation", false)]⟩

/-- The tag and documentation of a node. -/
def readHead (value : Json) : Except Json.ShapeError Head :=
  Json.readRecord nodeShape id
    (fun head name value =>
      match name with
      | "type" => (Json.expectString value).map fun tag => { head with tag }
      | "documentation" =>
        (Json.expectOptionalString value).map fun documentation => { head with documentation }
      | _ => .ok head)
    ⟨"", none⟩ value

/-- The node of a kind that has nothing below it. -/
def leaf (head : Head) : Schema :=
  match head.tag with
  | "string" => .scalar .string head.documentation
  | "integer" => .scalar .integer head.documentation
  | "boolean" => .scalar .boolean head.documentation
  | tag => .unsupported tag head.documentation

mutual

/-- The schema that a value describes. -/
def ofJson : Json → Except NodeError Schema
  | .object fields =>
    match readHead (.object fields) with
    | .error error => .error (.own (.shape error))
    | .ok head =>
      match head.tag with
      | "structure" => (membersField fields).map (.struct · head.documentation)
      | "list" => (elementField fields).map (.list · head.documentation)
      | _ => .ok (leaf head)
  | .array items =>
    match readHead (.array items) with
    | .error error => .error (.own (.shape error))
    | .ok head =>
      match head.tag with
      | "structure" => (membersItem items).map (.struct · head.documentation)
      | "list" => (elementItem items).map (.list · head.documentation)
      | _ => .ok (leaf head)
  | value => (readHead value).mapError (fun error => .own (.shape error)) |>.map leaf

/-- The members of a structure node that is written as an object. -/
def membersField : List (String × Json) → Except NodeError (List (String × Schema))
  | [] => .ok []
  | (name, value) :: rest => if name = "members" then memberSchemas value else membersField rest

/-- The members of a structure node that is written as an array. -/
def membersItem : List Json → Except NodeError (List (String × Schema))
  | _ :: members :: _ => memberSchemas members
  | _ => .ok []

/-- The schemas under the members of a structure node. -/
def memberSchemas : Json → Except NodeError (List (String × Schema))
  | .null => .ok []
  | .object members => memberSchemaList members
  | value => .error (.own (.membersNotObject value.kindName))

/-- The schemas of named members. -/
def memberSchemaList : List (String × Json) → Except NodeError (List (String × Schema))
  | [] => .ok []
  | (name, value) :: rest =>
    match ofJson value with
    | .error error => .error (error.under (.member name))
    | .ok member => (memberSchemaList rest).map ((name, member) :: ·)

/-- The element of a list node that is written as an object. -/
def elementField : List (String × Json) → Except NodeError Schema
  | [] => .error (.own .missingElement)
  | (name, value) :: rest =>
    if name = "members" then
      if value.isNull then .error (.own .missingElement)
      else (ofJson value).mapError (·.under .element)
    else elementField rest

/-- The element of a list node that is written as an array. -/
def elementItem : List Json → Except NodeError Schema
  | _ :: value :: _ =>
    if value.isNull then .error (.own .missingElement)
    else (ofJson value).mapError (·.under .element)
  | _ => .error (.own .missingElement)

end

/-! ## Writing as a record -/

/-- What is written under a node: the members of a structure by name, or the element of a list. -/
def contents? : Schema → Option Json
  | .struct members _ => some (.object (members.map fun member => (member.1, member.2.toJson)))
  | .list element _ => some element.toJson
  | _ => none

/-- The fields of a node as a record. -/
def field? (schema : Schema) : (name : String) → Option Json
  | "type" => some (.string schema.tag)
  | "members" => schema.contents?
  | "documentation" => schema.documentation?.map .string
  | _ => none

/-- The record that a schema is written as. -/
def toRecord (schema : Schema) : Json :=
  Json.writeRecord nodeShape schema.field?

end SchemaCall.Schema
