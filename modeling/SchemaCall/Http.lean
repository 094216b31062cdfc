import SchemaCall.Call.Dispatch
import SchemaCall.Json.Reader
import SchemaCall.Uri.Reader

/-!
# Requests over HTTP

A request is posted to the endpoint as a JSON document that carries a number; numbers count the
requests of a transport from zero, those included that are refused, in 64 bits. A request is refused
before it is sent when the endpoint is no absolute URL or has a scheme other than those of HTTP; in
the message the URL stands without user name and password.

The exchange itself is given from outside. What comes back is a status and bytes. If the bytes are a
JSON document, this is the response, whatever the status (`Answer.document`).

Requests may go through a proxy. Its address may leave out the scheme; then it is one of HTTP. An
address is refused if it has no host, a scheme that no proxy has, or a host with a character that
cannot stand in a request.
-/

namespace SchemaCall.Http

/-! ## Requests -/

/-- The URL that requests to an address go to, unless they are refused. -/
def target (address : String) : Except HttpError Uri :=
  match Uri.read address with
  | .error error => .error (.badUrl error.message)
  | .ok uri =>
    if uri.host?.isNone then .error (.schemeNotAllowed uri.write)
    else if uri.scheme = "http" ∨ uri.scheme = "https" then .ok uri
    else .error (.schemeNotAllowed uri.withoutUserinfo.write)

/-- What a server sends back. -/
structure Answer where
  status : Nat
  body : List UInt8

namespace Answer

/-- Does the status tell of success? -/
def isSuccess (answer : Answer) : Bool :=
  200 ≤ answer.status && answer.status ≤ 299

/-- The document that is sent back. Without one, a status other than one of success is reported with
the body as a text, and any other answer with the reason why its body is no document. -/
def document (answer : Answer) : Except TransportError Json :=
  match Json.readBytes answer.body with
  | .ok document => .ok document
  | .error error =>
    if answer.isSuccess then .error (.decode error.message)
    else .error (.status answer.status (String.ofList (Text.Utf8.decodeLossy answer.body)))

end Answer

/-- A way to post a document to a URL and get an answer back, unless the HTTP layer fails. -/
abbrev Exchange := (target : Uri) → (document : Json) → Except HttpError Answer

/-- The exchange of one who is not connected to anything. -/
def disconnected : Exchange := fun target _ =>
  .error (.failed ("error sending request for url (" ++ target.write ++ ")") ["no network"])

/-- Post a document to an endpoint, and take the document that comes back. -/
def deliver (exchange : Exchange) (endpoint : String) (document : Json) : Except CallError Json :=
  match target endpoint with
  | .error error => .error (.transport (.http error))
  | .ok uri =>
    match exchange uri document with
    | .error error => .error (.transport (.http error))
    | .ok answer => answer.document.mapError .transport

/-- The document of a request. -/
def request (method : String) (params : Json) (number : UInt64) : Json :=
  .object [("jsonrpc", .string "2.0"), ("method", .string method), ("params", params),
    ("id", .number (.ofWord number))]

/-- The transport that posts requests to an endpoint. Its state is the number of requests so far. -/
def transport (exchange : Exchange) (endpoint : String) : Transport UInt64 where
  name := "http"
  send method params sent := (deliver exchange endpoint (request method params sent), sent + 1)

/-! ## Proxies -/

/-- The URL of an address, if it has a host. -/
def hostedUri (address : String) : Except HttpError Uri :=
  match Uri.read address with
  | .error error => .error (.badUrl error.message)
  | .ok uri => if uri.host?.isSome then .ok uri else .error (.schemeNotAllowed uri.write)

/-- Could the address have been refused for want of a scheme? -/
def lacksScheme (address : String) : Bool :=
  match Uri.read address with
  | .error error => error = .noScheme
  | .ok _ => true

/-- The URL of a proxy; an address without scheme is tried as one of HTTP. -/
def proxyUri (address : String) : Except HttpError Uri :=
  match hostedUri address with
  | .ok uri => .ok uri
  | .error refusal =>
    match if lacksScheme address then hostedUri ("http://" ++ address) else .error refusal with
    | .ok uri => .ok uri
    | .error _ => .error (.badUrl refusal.message)

/-- Can the host stand in a request? -/
def isSendable (host : Uri.Host) : Bool :=
  !host.write.any fun c => c = '"' || c = '\x60' || c = '\x7b' || c = '\x7d'

/-- Check the address of a proxy. -/
def checkProxy (address : String) : Except HttpError Unit :=
  match proxyUri address with
  | .error refusal => .error refusal
  | .ok uri =>
    if uri.scheme ≠ "http" ∧ uri.scheme ≠ "https" then .error (.badUrl "unknown proxy scheme")
    else if uri.host?.all isSendable then .ok ()
    else .error (.badUrl "invalid uri character")

end SchemaCall.Http
