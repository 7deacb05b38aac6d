import OutboundHttp.Client.Execute

/-!
# A transport without a network

A transport that answers from a list of routes: the last route with the path of the
request counts, and without one there is no connection.  Such a client has no tables of
the charsets of several octets; of these it reads and writes ASCII.
-/
namespace OutboundHttp

/-- The answer to all requests with a path. -/
structure Route where
  path : Text
  answer : Except HttpError RawResponse

/-- The transport that answers from routes. -/
def Transport.ofRoutes (routes : List Route) : Transport := fun request =>
  match routes.reverse.find? (·.path == request.url.path) with
  | some route => route.answer
  | none => .error (.connection (("No route for " : Text) ++ request.url.text))

instance : MultiOctet.Codec := .ascii

end OutboundHttp
