import OutboundHttp.Response.Typed

/-!
# Sending requests

A client hands a request to a transport and judges the response.  What it notes on the
way is part of its answer: the events in order, and then the outcome.
-/
namespace OutboundHttp

/-- How much an event matters. -/
inductive Level where
  | trace
  | debug
  | warn
  deriving DecidableEq, Repr

/-- Something noted on the way. -/
structure Event where
  level : Level
  message : Text
  deriving DecidableEq, Repr

/-- What a transport brings back. -/
structure RawResponse where
  status : Status
  version : HttpVersion
  headers : HeaderLines
  body : Bytes
  deriving DecidableEq, Repr

/-- Brings a request to its server and the response back. -/
abbrev Transport := Request → Except HttpError RawResponse

/-- What came of a request, and what was noted on the way. -/
structure Outcome (α : Type) where
  events : List Event
  result : Except HttpError α

namespace Client

/-- Noted when a request is built. -/
def builtEvent (request : Request) : Event :=
  ⟨.trace, ("Built request for " : Text) ++ request.url.text⟩

/-- Noted before a request is sent. -/
def requestEvent (request : Request) : Event :=
  ⟨.debug, request.line⟩

/-- Noted when a response has come. -/
def responseEvent (response : Response) : Event :=
  ⟨.debug, ("Res: [" : Text) ++ response.request.method.name ++ ("] " : Text) ++
    response.request.url.text ++ (": " : Text) ++ Text.ofNat response.status.code.toNat ++
    (" (" : Text) ++ Text.ofNat response.data.length ++ (" bytes)" : Text)⟩

/-- Noted if the request wants the content of its response noted. -/
def contentEvents (response : Response) : List Event :=
  if response.request.options.logResponseContent then
    [⟨.trace, ("Response content: " : Text) ++ response.content⟩]
  else []

/-- The response has an error status that the request does not suppress. -/
def isFailure (response : Response) : Bool :=
  response.status.isError && !response.request.suppresses response.status.code

/-- Noted for a failure, if the request wants it noted. -/
def failureEvents (response : Response) : List Event :=
  if response.request.options.logHttpError then
    [⟨.warn, ("HTTP Error - " : Text) ++ response.line⟩]
  else []

/-- Judges a response. -/
def judge (response : Response) : Outcome Response :=
  let events := responseEvent response :: contentEvents response
  if isFailure response then
    ⟨events ++ failureEvents response, .error (.status response.status.code response.content)⟩
  else ⟨events, .ok response⟩

/-- Sends a request and judges its response. -/
def execute [MultiOctet.Codec] (transport : Transport) (request : Request) : Outcome Response :=
  match transport request with
  | .error e => ⟨[requestEvent request], .error e⟩
  | .ok raw =>
    let judged := judge (.ofBytes request raw.headers raw.body raw.status raw.version)
    ⟨requestEvent request :: judged.events, judged.result⟩

/-- Sends a request and reads the content of its response. -/
def executeTyped [MultiOctet.Codec] {α : Type} (transport : Transport) (reader : Json.Reader α)
    (request : Request) : Outcome (TypedResponse α) :=
  let outcome := execute transport request
  ⟨outcome.events, outcome.result.bind (TypedResponse.read reader)⟩

end Client
end OutboundHttp
