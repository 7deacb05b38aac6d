import OutboundHttp.Json.Fault
import OutboundHttp.Uri.Basic

/-!
# What can go wrong with a request or a response
-/
namespace OutboundHttp

/-- Why there is no request or no response. -/
inductive HttpError where
  /-- A text is no uri. -/
  | uri (cause : UriError)
  /-- A segment was given a value but does not occur in the url. -/
  | undefinedSegment (token : Text)
  /-- A form part was added to a request that is not a `POST`. -/
  | formNeedsPost
  /-- The request has both a body and form parts. -/
  | bodyAndForm
  /-- A header name holds a character that no name may hold. -/
  | headerName
  /-- A header value holds a control character. -/
  | headerValue
  /-- The body could not be written. -/
  | serialization (message : Text)
  /-- The content is not of the wanted kind. -/
  | deserialization (fault : Json.Fault)
  /-- The response has an error status. -/
  | status (code : UInt16) (content : Text)
  /-- The connection failed. -/
  | connection (message : Text)
  /-- The server took too long. -/
  | timeout
  | other (message : Text)
  deriving DecidableEq, Repr

/-- The wording of an error. -/
def HttpError.message : HttpError → Text
  | .uri cause => cause.message
  | .undefinedSegment token =>
    ("Segment " : Text) ++ token ++ (" is not defined in Uri" : Text)
  | .formNeedsPost =>
    "Unsupported operation: HttpRequest method must be POST to add FormParameter"
  | .bodyAndForm =>
    "Configuration error: Cannot send HttpRequest Body and FormData simultaneously"
  | .headerName => "Invalid header: invalid HTTP header name"
  | .headerValue => "Invalid header: failed to parse header value"
  | .serialization message => ("Serialization error: " : Text) ++ message
  | .deserialization fault => ("Deserialization error: " : Text) ++ fault.message
  | .status code content =>
    ("HTTP error (" : Text) ++ Text.ofNat code.toNat ++ ("): " : Text) ++ content
  | .connection message => ("Connection error: " : Text) ++ message
  | .timeout => "Request timeout"
  | .other message => message

/-- A failure to read a uri, among all failures. -/
def HttpError.ofUri {α : Type} (result : Except UriError α) : Except HttpError α :=
  result.mapError .uri

end OutboundHttp
