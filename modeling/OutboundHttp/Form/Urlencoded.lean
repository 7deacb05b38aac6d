import OutboundHttp.Form.Multipart
import OutboundHttp.Text.Percent

/-!
# Forms as one line of pairs

A small form without files is sent like a query: its parts are pairs of a name and a
payload read as text, percent coded, with `&` between them.  Which of the two encodings
a form gets is settled by its parts.
-/
namespace OutboundHttp
namespace Urlencoded

/-- A part as a pair. -/
def pairText (part : FormPart) : Text :=
  Percent.escape part.name ++ '=' :: Percent.escape (Utf8.decodeLossy part.payload)

/-- The parts as pairs. -/
def text (parts : List FormPart) : Text :=
  Text.join ['&'] (parts.map pairText)

/-- A form of pairs. -/
def encode (parts : List FormPart) : EncodedForm where
  contentType := "application/x-www-form-urlencoded"
  body := Utf8.encode (text parts)
  summary := text parts

end Urlencoded

/-- The encoding that a form needs, with the given boundary if it is a multipart one. -/
def EncodedForm.ofParts (boundary : Text) (parts : List FormPart) : EncodedForm :=
  if parts.any FormPart.needsMultipart then Multipart.encode boundary parts
  else Urlencoded.encode parts

end OutboundHttp
