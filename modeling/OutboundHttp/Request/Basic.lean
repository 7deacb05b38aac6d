import OutboundHttp.Data.SortedMap
import OutboundHttp.Request.Duration
import OutboundHttp.Text.Shown
import OutboundHttp.Uri.Basic

/-!
# Requests

A request is what is handed to the transport: a url, a method, headers, cookies,
content, and the options that say how the request is sent and its response judged.
-/
namespace OutboundHttp

/-- A request method; two methods are the same when their names are, case included. -/
structure Method where
  name : Text
  deriving DecidableEq, Repr

namespace Method

def get : Method := ⟨"GET"⟩

def post : Method := ⟨"POST"⟩

end Method

/-- A user name and a password. -/
structure Credentials where
  username : Text
  password : Text
  deriving DecidableEq, Repr

/-- Credentials shown to a programmer, who does not see the password. -/
def Credentials.shown (credentials : Credentials) : Text :=
  Shown.record "Credentials" [
    ("username", Text.quoted credentials.username),
    ("password", Text.quoted "<redacted>")]

/-- How a request is sent and its response judged. -/
structure RequestOptions where
  /-- No error status makes the request fail. -/
  suppressHttpError : Bool := false
  /-- The error statuses that do not make the request fail. -/
  suppressedStatusCodes : SortedSet UInt16 := .empty
  logHttpError : Bool := true
  useSimplifiedUserAgent : Bool := false
  allowAutoRedirect : Bool := true
  keepAlive : Bool := true
  /-- The least time between two requests to the same host. -/
  rateLimit : Duration := .zero
  logResponseContent : Bool := false
  credentials : Option Credentials := none
  deriving DecidableEq

/-- The part of a request that may still be changed when it is otherwise finished. -/
structure RequestContent where
  /-- The value of each header, by lower-case name. -/
  headers : SortedMap Text Bytes
  data : Option Bytes
  /-- The content as people read it. -/
  summary : Option Text
  deriving DecidableEq

/-- A request. -/
structure Request extends RequestContent where
  url : Uri
  method : Method
  cookies : SortedMap Text Text
  options : RequestOptions
  deriving DecidableEq

namespace Request

/-- A response of this status does not make the request fail. -/
def suppresses (request : Request) (status : UInt16) : Bool :=
  request.options.suppressHttpError ||
    request.options.suppressedStatusCodes.contains status

/-- A request as one line. -/
def line (request : Request) : Text :=
  let head := ("Req: [" : Text) ++ request.method.name ++ ("] " : Text) ++ request.url.text
  match request.summary with
  | some summary => head ++ (": " : Text) ++ summary
  | none => head

end Request
end OutboundHttp
