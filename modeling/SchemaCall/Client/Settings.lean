import SchemaCall.Client.Basic
import SchemaCall.Http
import SchemaCall.Memo.Basic
import SchemaCall.Model.Load
import SchemaCall.Text.Basic

/-!
# Settings

A client is built from settings. What they leave open is taken from the environment: the endpoint,
whether results are remembered, and how many. A setting always wins over the environment.
-/

namespace SchemaCall

/-- The variables of the environment. -/
structure Environment where
  bindings : List (String × String)

/-- The value of a variable, if it is set. -/
def Environment.get? (environment : Environment) (name : String) : Option String :=
  Entries.get? environment.bindings name

/-- The settings of a client. -/
structure Settings where
  model : Option Model
  modelPath : Option String
  endpoint : Option String
  memoize : Option Bool
  maxEntries : Option Nat

/-- The natural number of 64 bits that a text stands for; it may have a plus sign. -/
def readWord? (text : String) : Option Nat := do
  let digits :=
    match text.toList with
    | '+' :: rest => rest
    | chars => chars
  let value ← Text.digitsValue? 10 digits
  if digits.isEmpty ∨ 0xffffffffffffffff < value then none else some value

namespace Settings

/-- No settings. -/
def empty : Settings := ⟨none, none, none, none, none⟩

/-- The model that is used. -/
def resolveModel (settings : Settings) (files : Directory) : Except CallError Model :=
  match settings.model, settings.modelPath with
  | some model, _ => .ok model
  | none, some path =>
    match (Model.loadFile true files path).outcome with
    | .ok model => .ok model
    | .error error => .error (.model error)
  | none, none =>
    .error (.configuration "an API model is required"
      ⟨some "builder.model", none, some "client_builder"⟩)

/-- The address that is used as endpoint. -/
def endpointOf (settings : Settings) (environment : Environment) (model : Model) : String :=
  match settings.endpoint with
  | some endpoint => endpoint
  | none => (environment.get? "MODELRPC_ENDPOINT_URL").getD model.endpoint

/-- Check the proxy that the environment asks for. -/
def checkEnvironment (environment : Environment) : Except CallError Unit :=
  match environment.get? "MODELRPC_PROXY_URL" with
  | none => .ok ()
  | some address =>
    match Http.checkProxy address with
    | .ok () => .ok ()
    | .error refusal =>
      .error (.configuration ("invalid proxy URL: " ++ refusal.message)
        ⟨some "MODELRPC_PROXY_URL", some address, some "http_transport"⟩)

/-- The endpoint that requests are posted to. -/
def resolveEndpoint (settings : Settings) (environment : Environment) (model : Model) :
    Except CallError String :=
  let endpoint := settings.endpointOf environment model
  match Uri.read endpoint with
  | .error error =>
    .error (.configuration ("invalid endpoint URL: " ++ error.message)
      ⟨some "endpoint_url", some endpoint, some "client_builder"⟩)
  | .ok _ => (checkEnvironment environment).map fun () => endpoint

/-- Are results remembered? -/
def memoizes (settings : Settings) (environment : Environment) : Bool :=
  settings.memoize.getD (environment.get? "MODELRPC_MEMOIZE" = some "1")

/-- How many results are remembered. -/
def capacity (settings : Settings) (environment : Environment) : Capacity :=
  let count :=
    match settings.maxEntries with
    | some count => some count
    | none => (environment.get? "MODELRPC_CACHE_MAX_ENTRIES").bind readWord?
  .ofNat (count.getD 0)

/-- The memos in front of the dispatcher: one, or none. -/
def memos (settings : Settings) (environment : Environment) : List Memo :=
  if settings.memoizes environment then [.empty (settings.capacity environment)] else []

end Settings

/-- A client and the memos that it starts with. -/
structure Setup where
  client : Client
  memos : List Memo

namespace Settings

/-- Build a client over a transport that is given. -/
def build (settings : Settings) (environment : Environment) (files : Directory) :
    Except CallError Setup :=
  (settings.resolveModel files).map fun model =>
    ⟨.ofModel model, settings.memos environment⟩

/-- Build a client over HTTP, and find its endpoint. -/
def buildHttp (settings : Settings) (environment : Environment) (files : Directory) :
    Except CallError (Setup × String) :=
  match settings.resolveModel files with
  | .error error => .error error
  | .ok model =>
    match settings.resolveEndpoint environment model with
    | .error error => .error error
    | .ok endpoint => .ok (⟨.ofModel model, settings.memos environment⟩, endpoint)

end Settings

end SchemaCall
