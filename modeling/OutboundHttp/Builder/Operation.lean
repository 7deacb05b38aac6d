import OutboundHttp.Builder.Url
import OutboundHttp.Request.Header

/-!
# What is done to a builder

The operations on a builder, as values, and their effect.  An operation that fails
leaves the builder as it was, and a run goes on with the next one.
-/
namespace OutboundHttp

/-- Where a query parameter goes. -/
inductive ParamPlace where
  /-- Behind the parameters so far. -/
  | last
  /-- In front of all parameters. -/
  | first
  /-- Behind all parameters, also those that are still to come. -/
  | suffix
  deriving DecidableEq, Repr

namespace Builder

/-- One thing done to a builder. -/
inductive Operation where
  /-- Appends to the resource; a path with a slash in front replaces it. -/
  | resource (path : Text)
  | method (method : Method)
  /-- Gives a token a value; unless told otherwise, only if the url holds the token. -/
  | setSegment (token value : Text) (unchecked : Bool)
  /-- Adds a query parameter, in place of all others of its key if told so. -/
  | addQueryParam (place : ParamPlace) (key value : Text) (replace : Bool)
  | setHeader (name value : Text)
  | setCookies (cookies : List (Text × Text))
  | keepAlive (on : Bool)
  | rateLimit (seconds : Float)
  | suppressHttpError (on : Bool)
  | suppressStatusCodes (codes : List UInt16)
  | logHttpError (on : Bool)
  | useSimplifiedUserAgent (on : Bool)
  | allowAutoRedirect (on : Bool)
  | logResponseContent (on : Bool)
  | credentials (credentials : Credentials)
  | postProcess (hook : Hook)
  | body (data : Bytes)
  /-- Sets a body of JSON text, or notes why it could not be written. -/
  | json (written : Except Text Text)
  | contentSummary (summary : Text)
  | addFormPart (part : FormPart)

namespace Operation

/-- Switches to `POST`. -/
def post : Operation := method .post

/-- Sets what the request accepts. -/
def accept (value : Text) : Operation := setHeader "accept" value

/-- Sets one cookie. -/
def setCookie (name value : Text) : Operation := setCookies [(name, value)]

/-- Adds a form part that is a plain text. -/
def addFormText (name text : Text) : Operation :=
  addFormPart (.value name (Utf8.encode text))

/-- Adds a file whose content type is not known. -/
def addFormFile (name filename : Text) (data : Bytes) : Operation :=
  addFormPart (.file name filename "application/octet-stream" data)

end Operation

/-- The resource with a path behind it; a path that begins with a slash, like any path
while there is no resource, stands alone. -/
def extendResource (resource path : Text) : Text :=
  if Text.isBlank resource || path.head? == some '/' then Text.trimStart (· == '/') path
  else Text.trimEnd (· == '/') resource ++ '/' :: path

/-- The builder without the query parameters of a key. -/
def dropParams (b : Builder) (key : Text) : Builder :=
  { b with
    queryParams := b.queryParams.filter (·.1 != key)
    suffixQueryParams := b.suffixQueryParams.filter (·.1 != key) }

/-- The builder with a query parameter put in its place. -/
def putParam (b : Builder) : ParamPlace → Text × Text → Builder
  | .last, param => { b with queryParams := b.queryParams ++ [param] }
  | .first, param => { b with queryParams := param :: b.queryParams }
  | .suffix, param => { b with suffixQueryParams := b.suffixQueryParams ++ [param] }

/-- A token with its braces. -/
def segmentKey (token : Text) : Text :=
  '{' :: (token ++ ['}'])

/-- The builder with a value for a token. -/
def setSegment (b : Builder) (token value : Text) (unchecked : Bool) :
    Except HttpError Builder := do
  let key := segmentKey token
  if !unchecked then
    let url ← HttpError.ofUri b.resolveUrl
    if !Text.occursIn key url.text then throw (.undefinedSegment token)
  return { b with segments := b.segments.insert key value }

/-- The builder with a header in place of any of the same name. -/
def setHeader (b : Builder) (name value : Text) : Builder :=
  { b with headers := b.headers.insert (Text.lowerAscii name) value }

/-- The builder with a body of JSON text. -/
def setJson (b : Builder) : Except Text Text → Builder
  | .ok written =>
    { b with
      body := some (Utf8.encode written)
      contentSummary := some written
      bodyError := none }.setHeader "content-type" "application/json"
  | .error message => { b with bodyError := some message }

/-- The builder with other options. -/
def setOptions (b : Builder) (change : RequestOptions → RequestOptions) : Builder :=
  { b with options := change b.options }

/-- The builder after one operation. -/
def apply (b : Builder) : Operation → Except HttpError Builder
  | .resource path => .ok { b with resource := extendResource b.resource path }
  | .method method => .ok { b with method := method }
  | .setSegment token value unchecked => b.setSegment token value unchecked
  | .addQueryParam place key value replace =>
    .ok ((if replace then b.dropParams key else b).putParam place (key, value))
  | .setHeader name value => .ok (b.setHeader name value)
  | .setCookies cookies => .ok { b with cookies := b.cookies.insertMany cookies }
  | .keepAlive on => .ok (b.setOptions fun o => { o with keepAlive := on })
  | .rateLimit seconds =>
    .ok (b.setOptions fun o =>
      { o with rateLimit := (Duration.ofSeconds? seconds).getD .zero })
  | .suppressHttpError on => .ok (b.setOptions fun o => { o with suppressHttpError := on })
  | .suppressStatusCodes codes =>
    .ok (b.setOptions fun o =>
      { o with suppressedStatusCodes := SortedSet.insertMany o.suppressedStatusCodes codes })
  | .logHttpError on => .ok (b.setOptions fun o => { o with logHttpError := on })
  | .useSimplifiedUserAgent on =>
    .ok (b.setOptions fun o => { o with useSimplifiedUserAgent := on })
  | .allowAutoRedirect on => .ok (b.setOptions fun o => { o with allowAutoRedirect := on })
  | .logResponseContent on => .ok (b.setOptions fun o => { o with logResponseContent := on })
  | .credentials credentials =>
    .ok (b.setOptions fun o => { o with credentials := some credentials })
  | .postProcess hook => .ok { b with hook := some hook }
  | .body data => .ok { b with body := some data }
  | .json written => .ok (b.setJson written)
  | .contentSummary summary => .ok { b with contentSummary := some summary }
  | .addFormPart part =>
    if b.method = .post then .ok { b with formParts := b.formParts ++ [part] }
    else .error .formNeedsPost

/-- The builder after one operation, or as it was if the operation fails. -/
def applyOrKeep (b : Builder) (op : Operation) : Builder :=
  match b.apply op with
  | .ok b => b
  | .error _ => b

/-- The builder after a run of operations. -/
def run (b : Builder) (ops : List Operation) : Builder :=
  ops.foldl applyOrKeep b

end Builder
end OutboundHttp
