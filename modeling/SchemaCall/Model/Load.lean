import SchemaCall.Files
import SchemaCall.Http
import SchemaCall.Json.Reader
import SchemaCall.Model.Basic
import SchemaCall.Model.Codec
import SchemaCall.Model.DocumentRules
import SchemaCall.Text.Basic
import SchemaCall.Uri.Reader
import SchemaCall.Yaml.Value

/-!
# Loading models

A model is loaded from a document, a text, a file or a URL. With validation, which may be left out,
the document is checked first and the model inspected last; the warnings of the inspection are kept
even if it fails. A file whose name does not tell its format is tried as JSON, then as YAML.
-/

namespace SchemaCall

/-! ## Formats -/

/-- A format in which models are written. -/
inductive ModelFormat where
  | json
  | yaml
  deriving DecidableEq, Repr

namespace ModelFormat

/-- The last named component of a path; there is none if the path ends in `..`. -/
def fileName? (path : String) : Option (List Char) :=
  let components := (path.toList.splitOn '/').filter fun component =>
    component ≠ [] ∧ component ≠ ['.']
  components.getLast?.filter (· ≠ ['.', '.'])

/-- The extension of a file name: what follows its last dot, unless nothing stands before that. -/
def extension? (name : List Char) : Option (List Char) :=
  let extension := (name.reverse.takeWhile (· ≠ '.')).reverse
  if extension.length + 1 < name.length then some extension else none

/-- The format that the extension of a path tells. -/
def ofPath? (path : String) : Option ModelFormat := do
  let extension ← extension? (← fileName? path)
  match String.ofList (extension.map Char.toLower) with
  | "json" => some .json
  | "yaml" | "yml" => some .yaml
  | _ => none

end ModelFormat

/-! ## Inspecting models

A model that was read is inspected once more: its endpoint has to be an absolute URL that requests
can be sent to, and its operations have to have names. Operations that cannot be called, and nodes
of unknown kind, are no errors; each of them is noted as a warning, in the order of declaration.
-/

/-- Something about a model that is worth knowing but no error. -/
inductive Warning where
  | uncallable (operation input : String)
  | unsupportedKind (operation : String) (part : Part) (path tag : String)
  deriving DecidableEq, Repr

namespace Warning

/-- The wording of a warning. -/
def message : Warning → String
  | .uncallable .. =>
    "top-level input is neither a structure nor a list; calls will be rejected"
  | .unsupportedKind .. => "unsupported schema kind"

/-- What a warning is about, by name. -/
def fields : Warning → List (String × String)
  | .uncallable operation input => [("operation", operation), ("input", input)]
  | .unsupportedKind operation part path tag =>
    [("operation", operation), ("part", part.name), ("path", path), ("kind", tag)]

end Warning

namespace Operation

/-- The warnings about the nodes of unknown kind in one part of an operation. -/
def unsupportedWarnings (name : String) (operation : Operation) (part : Part) : List Warning :=
  (operation.schema part).unsupportedNodes.map fun node =>
    .unsupportedKind name part node.1 node.2

/-- The warnings about an operation of the given name. -/
def warnings (name : String) (operation : Operation) : List Warning :=
  (if operation.input.isContainer then [] else [.uncallable name operation.input.typeName]) ++
    operation.unsupportedWarnings name .input ++ operation.unsupportedWarnings name .output

end Operation

namespace Model

/-- Check that requests can be sent to an endpoint. -/
def checkEndpoint (endpoint : String) : Except ModelError Unit :=
  match Uri.read endpoint with
  | .error error =>
    .error (.invalid
      ("endpoint_url '" ++ endpoint ++ "' is not an absolute URL: " ++ error.message))
  | .ok uri =>
    if uri.isBase then .ok ()
    else .error (.invalid ("endpoint_url '" ++ endpoint ++ "' cannot be used as a request target"))

/-- The warnings about operations, up to the first without a name, and whether there is one. -/
def inspectOperations : List (String × Operation) → List Warning × Except ModelError Unit
  | [] => ([], .ok ())
  | (name, operation) :: rest =>
    if Text.isBlankText name then ([], .error (.invalid "Operation names must be non-empty"))
    else
      let (warnings, result) := inspectOperations rest
      (operation.warnings name ++ warnings, result)

/-- The warnings about a model, and whether it is sound. -/
def inspect (model : Model) : List Warning × Except ModelError Unit :=
  match checkEndpoint model.endpoint with
  | .error error => ([], .error error)
  | .ok () => inspectOperations model.operations.entries

end Model

/-! ## Loading -/

/-- The outcome of loading a model, with the warnings that were noted on the way. -/
structure Loading where
  warnings : List Warning
  outcome : Except ModelError Model

namespace Loading

/-- An attempt that failed before anything could be noted. -/
def failed (error : ModelError) : Loading := ⟨[], .error error⟩

/-- Try something else if an attempt failed; the warnings of both are kept. -/
def orElse (first second : Loading) : Loading :=
  match first.outcome with
  | .ok _ => first
  | .error _ => ⟨first.warnings ++ second.warnings, second.outcome⟩

end Loading

namespace Model

/-- Read a document as a model, without checking it. -/
def readDocument (document : Json) : Except ModelError Model :=
  match ofJson document with
  | .ok model => .ok model
  | .error misfit => .error (.parse ("Invalid API model: " ++ misfit.message))

/-- Inspect a model that was read. -/
def inspected (model : Model) : Loading :=
  match model.inspect with
  | (warnings, .ok ()) => ⟨warnings, .ok model⟩
  | (warnings, .error error) => ⟨warnings, .error error⟩

/-- Load a model from a document. -/
def load (validate : Bool) (document : Json) : Loading :=
  if validate then
    match checkDocument document with
    | .error error => .failed error
    | .ok () =>
      match readDocument document with
      | .error error => .failed error
      | .ok model => model.inspected
  else ⟨[], readDocument document⟩

/-- The document that a text holds. -/
def readText (format : ModelFormat) (text : String) : Except ModelError Json :=
  match format with
  | .json =>
    match Json.read text with
    | .ok document => .ok document
    | .error error => .error (.parse ("Invalid JSON model: " ++ error.message))
  | .yaml =>
    match Yaml.read text with
    | .ok document => .ok document
    | .error error =>
      .error (.parse ("Invalid YAML model" ++ error.location ++ ": " ++ error.cause.message))

/-- Load a model from a text. -/
def loadText (validate : Bool) (format : ModelFormat) (text : String) : Loading :=
  match readText format text with
  | .ok document => load validate document
  | .error error => .failed error

/-- The bytes without a mark of byte order at their start. -/
def withoutByteOrderMark : List UInt8 → List UInt8
  | 0xEF :: 0xBB :: 0xBF :: rest => rest
  | bytes => bytes

/-- The text of the file at a path. -/
def readFile (files : Directory) (path : String) : Except ModelError String :=
  match files.read path with
  | .error error =>
    .error (.load path error.message
      (some "Check if the file exists and you have read permissions."))
  | .ok bytes =>
    match Text.Utf8.decode (withoutByteOrderMark bytes) with
    | .ok chars => .ok (String.ofList chars)
    | .error fault => .error (.load path ("Invalid UTF-8: " ++ fault.message) none)

/-- Load a model from a file. -/
def loadFile (validate : Bool) (files : Directory) (path : String) : Loading :=
  match readFile files path with
  | .error error => .failed error
  | .ok text =>
    match ModelFormat.ofPath? path with
    | some format => loadText validate format text
    | none => (loadText validate .json text).orElse (loadText validate .yaml text)

/-- The failure to load a model from a URL that requests cannot be sent to. -/
def refusedUrl (url : String) (refusal : HttpError) : ModelError :=
  .load url ("HTTP request failed: " ++ refusal.message)
    (some "Check your internet connection and verify the URL is accessible.")

/-- Load a model from a URL; `fetch` gets the document that the URL serves. -/
def loadUrl (validate : Bool) (fetch : Uri → Except ModelError Json) (url : String) : Loading :=
  match Http.target url with
  | .error refusal => .failed (refusedUrl url refusal)
  | .ok uri =>
    match fetch uri with
    | .ok document => load validate document
    | .error error => .failed error

end Model

end SchemaCall
