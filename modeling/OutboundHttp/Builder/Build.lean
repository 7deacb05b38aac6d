import OutboundHttp.Builder.Defaults
import OutboundHttp.Form.Urlencoded

/-!
# Building requests

A builder becomes a request if its body could be written, it does not have both a body
and form parts, its url can be resolved, and its headers can be sent.  These are looked
at in this order, and the first that fails is the answer.
-/
namespace OutboundHttp
namespace Builder

/-- The headers so far with more of them, in order.  There is no bound on their number: that a
header map has room for 24576 names at most, and fails beyond, is outside of this model. -/
def sendHeaders (headers : SortedMap Text Bytes) :
    List (Text × Text) → Except HttpError (SortedMap Text Bytes)
  | [] => .ok headers
  | (name, value) :: rest => do
    let name ← Header.name? name
    let value ← Header.value? value
    sendHeaders (headers.insert name value) rest

/-- The content of the request before any hook has run. -/
def content (b : Builder) (boundary : Text) : Except HttpError RequestContent := do
  let start : SortedMap Text Bytes :=
    SortedMap.empty.insert "accept".toList (Utf8.encode defaultAccept)
  let headers ← sendHeaders start b.headers.entries
  if b.formParts.isEmpty then
    return { headers := headers, data := b.body, summary := b.contentSummary }
  else
    let form := EncodedForm.ofParts boundary b.formParts
    let contentType ← Header.value? form.contentType
    return {
      headers := headers.insert "content-type" contentType
      data := some form.body
      summary := b.contentSummary.or (some form.summary) }

/-- The request that a builder stands for, with the given boundary if it is to send a
multipart form. -/
def build (b : Builder) (boundary : Text) : Except HttpError Request := do
  if let some message := b.bodyError then throw (.serialization message)
  if b.body.isSome && !b.formParts.isEmpty then throw .bodyAndForm
  let url ← HttpError.ofUri b.resolveUrl
  let content ← b.content boundary
  return {
    toRequestContent := (b.hook.getD id) content
    url := url
    method := b.method
    cookies := b.cookies
    options := b.options }

end Builder

/-- A factory hands out copies of one builder. -/
structure Factory where
  root : Builder

namespace Factory

/-- A new copy of the root. -/
def create (factory : Factory) : Builder := factory.root

/-- A plain builder that has nothing of the root. -/
def createBuilder (_factory : Factory) (base : Uri) : Builder := .ofUri base

end Factory
end OutboundHttp
