import OutboundHttp.Text.Digits
import OutboundHttp.Text.Utf8

/-!
# Percent coding

A key or value that goes into a query is written with the letters, the digits and
`-`, `_`, `.` and `~` as they are and every other octet of its UTF-8 form as `%` and
two upper-case digits.  Reading takes digits of either case, leaves a `%` that no two
digits follow as it is, and puts a replacement character for what is no UTF-8.
-/
namespace OutboundHttp
namespace Percent

/-- The octet stands for itself in a written component. -/
def isUnreserved (b : UInt8) : Bool :=
  let c := Char.ofNat b.toNat
  c.isAlphanum || c == '-' || c == '_' || c == '.' || c == '~'

/-- The octet as `%` and two digits. -/
def triple (b : UInt8) : Text :=
  ['%', Text.upperHexDigit (b.toNat / 16), Text.upperHexDigit (b.toNat % 16)]

/-- An octet of a component as it is written. -/
def escapeByte (b : UInt8) : Text :=
  if isUnreserved b then [Char.ofNat b.toNat] else triple b

/-- A component as it is written. -/
def escape (text : Text) : Text :=
  (Utf8.encode text).flatMap escapeByte

/-- The octets that a written component stands for. -/
def bytesOf : Text → Bytes
  | '%' :: high :: low :: rest =>
    match Text.hexValue? high, Text.hexValue? low with
    | some h, some l => UInt8.ofNat (h * 16 + l) :: bytesOf rest
    | _, _ => 0x25 :: bytesOf (high :: low :: rest)
  | c :: rest => String.utf8EncodeChar c ++ bytesOf rest
  | [] => []

/-- The text that a written component stands for. -/
def unescape (text : Text) : Text :=
  Utf8.decodeLossy (bytesOf text)

@[simp] theorem escape_nil : escape [] = [] := rfl

@[simp] theorem escape_append (a b : Text) : escape (a ++ b) = escape a ++ escape b := by
  simp [escape]

end Percent
end OutboundHttp
