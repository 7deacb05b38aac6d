import OutboundHttp.Form.Part

/-!
# Multipart forms

Each part stands between two lines that begin with `--` and the boundary.  It has a
block of header lines, an empty line, and then its payload as it is.  Names that are
blank are left out.
-/
namespace OutboundHttp
namespace Multipart

/-- A carriage return and a line feed. -/
def lineEnd : Bytes := [0x0D, 0x0A]

/-- A line of text with its end. -/
def line (text : Text) : Bytes :=
  Utf8.encode text ++ lineEnd

/-- A parameter of a header line, unless it is blank. -/
def parameter (name value : Text) : Text :=
  if Text.isBlank value then []
  else (("; " : Text) ++ name ++ ("=\"" : Text)) ++ value ++ ['"']

/-- The line that names a part and the file in it. -/
def dispositionLine (part : FormPart) : Text :=
  let filename := match part with
    | .value .. => []
    | .file _ filename _ _ => parameter "filename" filename
  ("Content-Disposition: form-data" : Text) ++ parameter "name" part.name ++ filename

/-- The line that names the content type of a file. -/
def typeLine? : FormPart → Option Text
  | .value .. => none
  | .file _ _ contentType _ =>
    if Text.isBlank contentType then none
    else some (("Content-Type: " : Text) ++ contentType)

/-- The header lines of a part. -/
def headerLines (part : FormPart) : List Text :=
  dispositionLine part :: (typeLine? part).toList

/-- A part as it is sent, with the line in front of it. -/
def partBytes (boundary : Text) (part : FormPart) : Bytes :=
  line (("--" : Text) ++ boundary) ++ (headerLines part).flatMap line ++ lineEnd ++
    part.payload ++ lineEnd

/-- The line behind the last part. -/
def closingLine (boundary : Text) : Bytes :=
  line (("--" : Text) ++ boundary ++ ("--" : Text))

/-- The parts in one body. -/
def body (boundary : Text) (parts : List FormPart) : Bytes :=
  parts.flatMap (partBytes boundary) ++ closingLine boundary

/-- The parts as people read them, each on a line of its own. -/
def summary (parts : List FormPart) : Text :=
  parts.flatMap fun part => '\r' :: '\n' :: part.summary

/-- A multipart form. -/
def encode (boundary : Text) (parts : List FormPart) : EncodedForm where
  contentType := ("multipart/form-data; boundary=" : Text) ++ boundary
  body := body boundary parts
  summary := summary parts

end Multipart

namespace Boundary

/-- What every boundary of this library begins with. -/
def lead : Text := List.replicate 29 '-'

/-- The boundary made from a tick of the clock; its last fifty-six bits count. -/
def ofTicks (ticks : Nat) : Text :=
  lead ++ Text.hexOfNat 14 (ticks % 0x100000000000000)

/-- The text is one that `ofTicks` makes. -/
def isWellFormed (boundary : Text) : Bool :=
  boundary.length == 43 && lead.isPrefixOf boundary &&
    (boundary.drop 29).all fun c => Text.isHexDigit c && !c.isUpper

end Boundary
end OutboundHttp
