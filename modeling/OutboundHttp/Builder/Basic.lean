import OutboundHttp.Form.Part
import OutboundHttp.Request.Basic
import OutboundHttp.Uri.Shown

/-!
# Request builders

A builder holds what is known about a request so far.  It is a plain value: a copy of a
builder shares nothing with it.
-/
namespace OutboundHttp

/-- A change made to the content of every request that is built.  A header has one value here,
and url, method, cookies and options are out of reach, so that a hook which appends further
values under one name, or puts another request in place of the whole, is not covered. -/
abbrev Hook := RequestContent → RequestContent

/-- The hook that sets some headers, and the data and the summary where they are given. -/
def Hook.set (headers : List (Text × Bytes)) (data : Option Bytes) (summary : Option Text) :
    Hook := fun content => {
  headers := content.headers.insertMany headers
  data := data.or content.data
  summary := summary.or content.summary }

/-- What is known about a request so far. -/
structure Builder where
  base : Uri
  /-- The path of the request below the base url. -/
  resource : Text := []
  method : Method := .get
  /-- The query parameters in order. -/
  queryParams : List (Text × Text) := []
  /-- The query parameters that come after all others. -/
  suffixQueryParams : List (Text × Text) := []
  /-- What stands in the url for a token in braces, by token with its braces. -/
  segments : SortedMap Text Text := .empty
  /-- Header values, by lower-case name. -/
  headers : SortedMap Text Text := .empty
  cookies : SortedMap Text Text := .empty
  formParts : List FormPart := []
  body : Option Bytes := none
  /-- The content as people read it. -/
  contentSummary : Option Text := none
  /-- Why the body set last could not be written. -/
  bodyError : Option Text := none
  options : RequestOptions := {}
  hook : Option Hook := none

namespace Builder

/-- A `GET` builder for a base url. -/
def ofUri (base : Uri) : Builder where
  base := base

/-- A builder shown to a programmer. -/
def shown (b : Builder) : Text :=
  let segments := b.segments.entries
  Shown.partialRecord "RequestBuilder" [
    ("base_url", b.base.shown),
    ("resource", Text.quoted b.resource),
    ("method", b.method.name),
    ("query_params", Shown.list (b.queryParams.map Shown.pair)),
    ("suffix_query_params", Shown.list (b.suffixQueryParams.map Shown.pair)),
    ("segments", Shown.bindings segments),
    ("form_parts", Text.ofNat b.formParts.length),
    ("error", Shown.option (b.bodyError.map Text.quoted))]

end Builder
end OutboundHttp
