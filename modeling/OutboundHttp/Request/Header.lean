import OutboundHttp.Error

/-!
# Header names and values

A header name is a token, compared without case and kept in lower case; a header value
may hold any octet that is no control character, and the tab.
-/
namespace OutboundHttp
namespace Header

/-- The character may stand in a header name. -/
def isNameChar (c : Char) : Bool :=
  c.isAlphanum || "!#$%&'*+-.^_`|~".toList.contains c

/-- The longest header name. -/
def longestName : Nat := 65535

/-- The header name that a text stands for. -/
def name? (text : Text) : Except HttpError Text :=
  if text.isEmpty || longestName < text.length || !text.all isNameChar then .error .headerName
  else .ok (Text.lowerAscii text)

/-- The octet may stand in a header value. -/
def isValueByte (b : UInt8) : Bool :=
  b == 0x09 || (0x20 ≤ b && b != 0x7F)

/-- The header value that a text stands for. -/
def value? (text : Text) : Except HttpError Bytes :=
  let bytes := Utf8.encode text
  if bytes.all isValueByte then .ok bytes else .error .headerValue

/-- The octet is a printable one of ASCII, or the tab. -/
def isPlainByte (b : UInt8) : Bool :=
  b == 0x09 || (0x20 ≤ b && b < 0x7F)

/-- The text of a header value that holds printable octets of ASCII and tabs only. -/
def plainText? (value : Bytes) : Option Text :=
  if value.all isPlainByte then some (value.map fun b => Char.ofNat b.toNat) else none

end Header
end OutboundHttp
