import OutboundHttp.Charset.Codec
import OutboundHttp.Request.Basic
import OutboundHttp.Request.Header
import OutboundHttp.Response.Cookie
import OutboundHttp.Response.Status
import OutboundHttp.Text.Blank
import OutboundHttp.Uri.Shown

/-!
# Responses

A response has headers, a status, a version, and content, both as bytes and as text.
The text is the bytes in the charset that the content type names, or the bytes are the
text in that charset, according to what the response was made from.
-/
namespace OutboundHttp

/-- The lines of a header in the order in which they came, each with its lower-case
name. -/
abbrev HeaderLines := List (Text × Bytes)

namespace HeaderLines

/-- The values of a header, in order. -/
def values (lines : HeaderLines) (name : Text) : List Bytes :=
  (lines.filter (·.1 == name)).map Prod.snd

/-- The first content type, if it is plain text. -/
def contentType? (lines : HeaderLines) : Option Text :=
  (lines.values "content-type").head?.bind Header.plainText?

/-- The label of a charset in a content type: what follows the first `charset=` up to a
quotation mark, a semicolon or white space, without quotation marks in front of it. -/
def charsetLabel? (contentType : Text) : Option Text :=
  let mark : Text := "charset="
  match Text.after? mark (Text.lowerAscii contentType) with
  | none => none
  | some lower =>
    let rest := contentType.drop (contentType.length - lower.length)
    let rest := Text.trimStart (· == '"') rest
    let label := rest.takeWhile fun c => c != '"' && c != ';' && !Charset.isAsciiSpace c
    if label.isEmpty then none else some label

/-- The charset of the content: the one that the content type names, or UTF-8 if it
names none that is known. -/
def charset (lines : HeaderLines) : Charset :=
  ((lines.contentType?.bind charsetLabel?).bind Charset.ofLabel?).getD .utf8

end HeaderLines

/-- A response to a request. -/
structure Response where
  request : Request
  headers : HeaderLines
  status : Status
  version : HttpVersion
  data : Bytes
  content : Text
  deriving DecidableEq

namespace Response

/-- The response with the given bytes. -/
def ofBytes [MultiOctet.Codec] (request : Request) (headers : HeaderLines) (data : Bytes)
    (status : Status) (version : HttpVersion) : Response where
  request := request
  headers := headers
  status := status
  version := version
  data := data
  content := headers.charset.decode data

/-- The response with the given text. -/
def ofText [MultiOctet.Codec] (request : Request) (headers : HeaderLines) (content : Text)
    (status : Status) (version : HttpVersion) : Response where
  request := request
  headers := headers
  status := status
  version := version
  data := headers.charset.encode content
  content := content

/-- The cookie lines, as text. -/
def cookieLines (response : Response) : List Text :=
  (response.headers.values "set-cookie").map Utf8.decodeLossy

/-- The cookies that the response sets. -/
def cookies (response : Response) : SortedMap Text Text :=
  Cookie.ofLines response.cookieLines

/-- The content type names a page for people. -/
def isHtml (contentType : Text) : Bool :=
  Text.sameIgnoringCase (Text.strip (contentType.takeWhile (· != ';'))) "text/html"

/-- The content is shown with the response: it is an error, and it has a content type
that is not that of a page for people. -/
def showsContent (response : Response) : Bool :=
  match response.headers.contentType? with
  | some contentType => response.status.isError && !isHtml contentType
  | none => false

/-- What response came to which request. -/
def line (response : Response) : Text :=
  let head := ("Res: " : Text) ++ response.version.label ++ (" [" : Text) ++
    response.request.method.name ++ ("] " : Text) ++ response.request.url.text ++
    (": " : Text) ++ Text.ofNat response.status.code.toNat ++ '.' :: response.status.reason ++
    (" (" : Text) ++ Text.ofNat response.data.length ++ (" bytes)" : Text)
  if response.showsContent then head ++ '\n' :: response.content else head

/-- A response shown to a programmer. -/
def shown (response : Response) : Text :=
  Shown.partialRecord "Response" [
    ("url", response.request.url.shown),
    ("status", Text.ofNat response.status.code.toNat),
    ("version", response.version.label),
    ("bytes", Text.ofNat response.data.length)]

end Response
end OutboundHttp
