import OutboundHttp.Builder.Basic
import OutboundHttp.Error
import OutboundHttp.Uri.Query
import OutboundHttp.Uri.Resolve

/-!
# The url of a builder

The url of a request is the base url with the resource behind its path and the query
parameters behind its query; then every token in braces that has a value gives way to
it, one token after the other.
-/
namespace OutboundHttp
namespace Builder

/-- The url without regard to segments. -/
def assembledUrl (b : Builder) : Except UriError Uri := do
  (← b.base.appendPath b.resource).addQueryParams (b.queryParams ++ b.suffixQueryParams)

/-- A text with each token given way to its value, in the order of the tokens. -/
def substitute (segments : List (Text × Text)) (text : Text) : Text :=
  segments.foldl (fun text segment => Text.replaceAll segment.1 segment.2 text) text

/-- The url of the request. -/
def resolveUrl (b : Builder) : Except UriError Uri := do
  let url ← b.assembledUrl
  if b.segments.isEmpty then return url
  else Uri.parse (substitute b.segments.entries url.text)

/-- A base url made from its parts; the path in it, if there is any, gets a slash in
front of it. -/
def baseUrl (useHttps : Bool) (host : Text) (port : UInt16) (path : Option Text) : Text :=
  let scheme : Text := if useHttps then "https" else "http"
  let authority := scheme ++ ("://" : Text) ++ host ++ ':' :: Text.ofNat port.toNat
  let path := Text.strip (path.getD [])
  if path.isEmpty then authority
  else if path.head? = some '/' then authority ++ path
  else authority ++ '/' :: path

end Builder
end OutboundHttp
