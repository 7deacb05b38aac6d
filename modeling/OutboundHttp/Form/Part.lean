import OutboundHttp.Text.Blank
import OutboundHttp.Text.Digits
import OutboundHttp.Text.Utf8

/-!
# The parts of a form

A form is a list of named parts, each a plain value or a file.
-/
namespace OutboundHttp

/-- One part of a form. -/
inductive FormPart where
  /-- A value under a name. -/
  | value (name : Text) (value : Bytes)
  /-- A file under a name, with the name of the file and the type of its content. -/
  | file (name filename contentType : Text) (data : Bytes)
  deriving DecidableEq, Repr

/-- A form made ready to be sent. -/
structure EncodedForm where
  /-- What the request names as the type of its content. -/
  contentType : Text
  body : Bytes
  /-- The form as people read it. -/
  summary : Text
  deriving DecidableEq, Repr

namespace FormPart

/-- The name of a part. -/
def name : FormPart → Text
  | value name _ => name
  | file name .. => name

/-- The bytes that a part carries. -/
def payload : FormPart → Bytes
  | value _ bytes => bytes
  | file _ _ _ data => data

/-- The most bytes that a part may carry in a form that is not a multipart one. -/
def largestInline : Nat := 1024

/-- The part can be sent only in a multipart form: it is large, or it is a file whose
name or content type must not be lost. -/
def needsMultipart : FormPart → Bool
  | value _ bytes => largestInline < bytes.length
  | file _ filename contentType data =>
    !Text.isBlank filename || !Text.isBlank contentType || largestInline < data.length

/-- The part as people read it: a value in full, a file by its size. -/
def summary : FormPart → Text
  | value name bytes => name ++ '=' :: Utf8.decodeLossy bytes
  | file name filename _ data =>
    name ++ '=' :: filename ++ (" (" : Text) ++ Text.ofNat data.length ++ (" bytes)" : Text)

end FormPart
end OutboundHttp
