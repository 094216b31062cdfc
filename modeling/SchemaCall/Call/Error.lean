import SchemaCall.Model.Basic
import SchemaCall.Schema.Conformance

/-!
# Errors of calls and clients

Every way in which building a client or calling an operation can fail. `message` is the wording;
`callerFault` tells whether the caller can mend the failure by changing the call; `trail` is the
wording of the error followed by that of each error it wraps.
-/

namespace SchemaCall

/-- A failure of the HTTP layer. It refuses to send a request whose endpoint is no URL, or one with
another scheme than those of HTTP; anything that fails later comes with the wording of its causes,
from the outermost in. -/
inductive HttpError where
  | badUrl (reason : String)
  | schemeNotAllowed (url : String)
  | failed (message : String) (causes : List String)
  deriving DecidableEq, Repr

namespace HttpError

/-- The wordings of what is inside a failure. -/
def causes : HttpError → List String
  | .badUrl reason => [reason]
  | .schemeNotAllowed _ => ["URL scheme is not allowed"]
  | .failed _ causes => causes

/-- The wording of a failure. -/
def message : HttpError → String
  | .badUrl reason => "builder error: " ++ reason
  | .schemeNotAllowed url => "builder error for url (" ++ url ++ "): URL scheme is not allowed"
  | .failed message _ => message

end HttpError

/-- A failed exchange with the server. -/
inductive TransportError where
  | http (error : HttpError)
  | status (code : Nat) (body : String)
  | decode (reason : String)
  | other (reason : String)
  deriving DecidableEq, Repr

/-- The wording of a transport error. -/
def TransportError.message : TransportError → String
  | .http error => "HTTP error: " ++ error.message
  | .status code body => "HTTP " ++ toString code ++ ": " ++ body
  | .decode reason => "Undecodable response body: " ++ reason
  | .other reason => "Transport error: " ++ reason

/-- Where a configuration error comes from. -/
structure ErrorContext where
  field : Option String
  details : Option String
  source : Option String
  deriving DecidableEq, Repr, Inhabited

/-- The wording of a context, in parentheses; nothing for an empty one. -/
def ErrorContext.message (context : ErrorContext) : String :=
  let parts := [context.field.map ("field: " ++ ·), context.details.map ("details: " ++ ·),
    context.source.map ("source: " ++ ·)].filterMap id
  if parts.isEmpty then "" else " (" ++ ", ".intercalate parts ++ ")"

/-- A failure to build a client or to call an operation. -/
inductive CallError where
  | ambiguousMode (positional keyword : Nat)
  | nonconforming (violation : Violation)
  | unknownOperation (name : String)
  | remoteFailure (message : String) (code : Option Int) (data : Option Json)
  | malformedResponse (reason : String)
  | model (error : ModelError)
  | transport (error : TransportError)
  | configuration (reason : String) (context : ErrorContext)
  deriving DecidableEq

namespace CallError

/-- The wording of an error. -/
def message : CallError → String
  | .ambiguousMode positional keyword =>
    "Only positional args or keyword args can be provided, not both (got " ++ toString positional ++
      " positional and " ++ toString keyword ++ " keyword)"
  | .nonconforming violation => violation.message
  | .unknownOperation name => "Unknown operation " ++ name
  | .remoteFailure message _ _ => "Remote operation failed: " ++ message
  | .malformedResponse reason => "Malformed response: " ++ reason
  | .model error => "API model error: " ++ error.message
  | .transport error => "Network transport error: " ++ error.message
  | .configuration reason context => "Configuration error: " ++ reason ++ context.message

/-- Can the caller mend the failure by changing the call? -/
def callerFault : CallError → Bool
  | .ambiguousMode .. | .unknownOperation _ => true
  | .nonconforming (.unsupportedKind ..) => false
  | .nonconforming _ => true
  | _ => false

/-- The wording of an error, then of each error inside it from the outermost in. -/
def trail (error : CallError) : List String :=
  error.message ::
    match error with
    | .model error => [error.message]
    | .transport (.http error) =>
      [(TransportError.http error).message, error.message] ++ error.causes
    | .transport error => [error.message]
    | _ => []

end CallError

end SchemaCall
