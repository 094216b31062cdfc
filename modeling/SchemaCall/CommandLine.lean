import SchemaCall.Call.Arguments
import SchemaCall.Call.Dispatch
import SchemaCall.Client.Settings
import SchemaCall.Http
import SchemaCall.Json.Reader
import SchemaCall.Memo.Basic

/-!
# The command line

What a command prints and the status it ends with, given the words on the command line, the
environment, the files that can be reached and a way to exchange documents over HTTP. Every failure
ends with status 1 and prints the error, followed by the errors inside it.
-/

namespace SchemaCall.CommandLine

/-! ## Words of a command line

After the command, options and other words may stand in any order. The words of a call are an
operation and its arguments: `name=value` gives a keyword argument if the name is an identifier, and
any other word a positional one. A value is JSON where it can be read as such and a string
otherwise.
-/

/-- What is wrong with the words of a command. -/
inductive WordError where
  | missingModelPath
  | missingEndpoint
  | noModel
  | noOperation
  deriving DecidableEq, Repr

/-- The wording of an error. -/
def WordError.message : WordError → String
  | .missingModelPath => "--model requires a path"
  | .missingEndpoint => "--endpoint requires a URL"
  | .noModel => "no model given: use --model <path> or set MODELRPC_MODEL_PATH"
  | .noOperation => "Usage: modelrpc-cli call [--model <path>] <operation> [ARGS...]"

/-- The options of a command, and the words that are none. -/
structure Options where
  model : Option String
  endpoint : Option String
  rest : List String
  deriving DecidableEq, Repr

namespace Options

/-- No options and no words. -/
def empty : Options := ⟨none, none, []⟩

/-- Add the words of a command to the options read so far; the last of repeated options counts. -/
def readWords (options : Options) : List String → Except WordError Options
  | [] => .ok options
  | "--model" :: path :: words => readWords { options with model := some path } words
  | ["--model"] => .error .missingModelPath
  | "--endpoint" :: url :: words => readWords { options with endpoint := some url } words
  | ["--endpoint"] => .error .missingEndpoint
  | word :: words => readWords { options with rest := options.rest ++ [word] } words

end Options

/-- A command whose model is known. -/
structure Request where
  model : String
  endpoint : Option String
  rest : List String
  deriving DecidableEq, Repr

/-- Read the words of a command; the environment may name the model. -/
def readRequest (environment : Environment) (words : List String) : Except WordError Request :=
  match Options.empty.readWords words with
  | .error error => .error error
  | .ok options =>
    match options.model.or (environment.get? "MODELRPC_MODEL_PATH") with
    | some model => .ok ⟨model, options.endpoint, options.rest⟩
    | none => .error .noModel

/-! ### Arguments of a call -/

/-- Is the text an identifier: letters, digits and underscores of ASCII, and at least one? -/
def isIdentifier (text : List Char) : Bool :=
  !text.isEmpty && text.all fun c => c.isAlphanum || c = '_'

/-- The value that a text stands for. -/
def readValue (text : List Char) : Json :=
  match Json.readChars text with
  | .ok value => value
  | .error _ => .string (String.ofList text)

/-- One word of a call: a keyword argument or a positional one. -/
inductive Word where
  | positional (value : Json)
  | keyword (name : String) (value : Json)
  deriving DecidableEq

/-- Cut a text at the first equality sign. -/
def splitAtEquals (text : List Char) : Option (List Char × List Char) :=
  match text.dropWhile (· ≠ '=') with
  | _ :: value => some (text.takeWhile (· ≠ '='), value)
  | [] => none

/-- What a word of a call stands for. -/
def Word.read (word : String) : Word :=
  match splitAtEquals word.toList with
  | some (name, value) =>
    if isIdentifier name then .keyword (String.ofList name) (readValue value)
    else .positional (readValue word.toList)
  | none => .positional (readValue word.toList)

/-- The arguments with one more. -/
def Word.addTo (args : Arguments) : Word → Arguments
  | .positional value => args.addPositional value
  | .keyword name value => args.setKeyword name value

/-- The arguments that words stand for. -/
def readArguments (words : List String) : Arguments :=
  words.foldl (fun args word => (Word.read word).addTo args) .none

/-- The operation and the arguments of a call. -/
def readCall (words : List String) : Except WordError (String × Arguments) :=
  match words with
  | operation :: words => .ok (operation, readArguments words)
  | [] => .error .noOperation

/-! ## Commands -/

/-- What a command leaves behind. -/
structure Outcome where
  status : UInt8
  output : String
  errors : String
  deriving DecidableEq, Repr

namespace Outcome

/-- The outcome of a command that succeeds. -/
def success (output : String) : Outcome := ⟨0, output, ""⟩

/-- The outcome of a command that fails after printing something; the texts are those of the error
and of the errors inside it, from the outermost in. -/
def failure (output : String) (trail : List String) : Outcome :=
  ⟨1, output, "Error: " ++ ": ".intercalate trail ++ "\n"⟩

end Outcome

/-- What surrounds a command. -/
structure World where
  environment : Environment
  files : Directory
  exchange : Http.Exchange

/-- The version of the program. -/
def version : String := "0.3.1"

/-- How the program is used. -/
def usage : String :=
  "modelrpc-cli - model-driven RPC client

USAGE:
    modelrpc-cli <COMMAND> [OPTIONS]

COMMANDS:
    describe [--model <path>]               Show every operation's signature and docs
    validate [--model <path>]               Validate an API model file
    call [--model <path>] [--endpoint <url>] <operation> [ARGS...]
                                            Invoke an operation; ARGS are either all
                                            key=value (keyword) or all bare (positional),
                                            each parsed as JSON with a string fallback
    version                                 Show version information
    help                                    Show this help message

ENVIRONMENT:
    MODELRPC_MODEL_PATH                     Default API model file
    MODELRPC_ENDPOINT_URL                   Override the model's endpoint_url
    MODELRPC_HTTP_TIMEOUT_SECS              HTTP timeout (default 30)
    RUST_LOG                                Log filter (default warn)
"

/-- The settings that a request asks for. -/
def Request.settings (request : Request) (endpoint : Option String) : Settings :=
  { Settings.empty with modelPath := some request.model, endpoint }

/-! ### Commands -/

/-- Show what a model offers. -/
def describe (world : World) (request : Request) : Outcome :=
  match (request.settings none).buildHttp world.environment world.files with
  | .ok (setup, _) =>
    .success ("Endpoint: " ++ setup.client.model.endpoint ++ "\n\n" ++ setup.client.help)
  | .error error => .failure "" (("loading " ++ request.model) :: error.trail)

/-- The lines about the nodes of unknown kind in an operation. -/
def unsupportedLines (operation : Operation) : List String :=
  (operation.input.unsupportedNodes ++ operation.output.unsupportedNodes).map fun (path, tag) =>
    "    WARN " ++ operation.name ++ ": unsupported schema kind '" ++ tag ++ "' at " ++ path ++ "\n"

/-- Load a model and tell whether it is sound. -/
def validate (world : World) (request : Request) : Outcome :=
  let start := "  " ++ request.model ++ "... "
  match (Model.loadFile true world.files request.model).outcome with
  | .ok model =>
    .success (start ++ "OK\n    endpoint: " ++ model.endpoint ++ "\n    operations: " ++
      toString model.operations.size ++ "\n" ++
      String.join (model.operations.entries.flatMap fun (_, operation) =>
        unsupportedLines operation))
  | .error error => .failure (start ++ "FAIL\n") [error.message]

/-- Call an operation and show its result. -/
def call (world : World) (request : Request) : Outcome :=
  match readCall request.rest with
  | .error error => .failure "" [error.message]
  | .ok (operation, args) =>
    match (request.settings request.endpoint).buildHttp world.environment world.files with
    | .error error => .failure "" error.trail
    | .ok (setup, endpoint) =>
      let dispatch := setup.client.model.call (Http.transport world.exchange endpoint)
      match (setup.client.call (Layers.call dispatch) operation args ⟨setup.memos, 0⟩).1 with
      | .ok result => .success (result.pretty ++ "\n")
      | .error error => .failure "" error.trail

/-- Run one of the commands on a model. -/
def onRequest (command : World → Request → Outcome) (world : World) (words : List String) :
    Outcome :=
  match readRequest world.environment words with
  | .ok request => command world request
  | .error error => .failure "" [error.message]

/-- Run the program with the given words. -/
def run (world : World) (words : List String) : Outcome :=
  match words with
  | [] => ⟨1, usage, ""⟩
  | "describe" :: words => onRequest describe world words
  | "validate" :: words => onRequest validate world words
  | "call" :: words => onRequest call world words
  | "version" :: _ | "--version" :: _ | "-V" :: _ => .success ("modelrpc-cli " ++ version ++ "\n")
  | "help" :: _ | "--help" :: _ | "-h" :: _ => .success usage
  | other :: _ => ⟨1, usage, "Unknown command: " ++ other ++ "\n\n"⟩

end SchemaCall.CommandLine
