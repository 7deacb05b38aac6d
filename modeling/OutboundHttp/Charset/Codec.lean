import OutboundHttp.Charset.Basic
import OutboundHttp.Charset.Utf16
import OutboundHttp.Text.Digits

/-!
# Text in a charset

Bytes are read as text and text is written as bytes in a charset.  Reading never fails.
A character that a charset of single octets does not have is written as its number
between `&#` and `;`, and an octet that stands for no character is read as the replacement
character.  How the charsets of several octets are read and written is left open.
-/
namespace OutboundHttp
namespace Charset

/-- The character of an octet, given the upper half of the charset. -/
def charOfByte (upper : List Nat) (b : UInt8) : Char :=
  if b < 0x80 then Char.ofNat b.toNat
  else Char.ofNat ((upper[b.toNat - 0x80]?).getD 0xFFFD)

/-- The octet of a character, given the upper half of the charset. -/
def byteOfChar? (upper : List Nat) (c : Char) : Option UInt8 :=
  if c.toNat < 0x80 then some (UInt8.ofNat c.toNat)
  else if c = Utf8.replacement then none
  else (upper.idxOf? c.toNat).map fun i => UInt8.ofNat (0x80 + i)

/-- A character that a charset does not have. -/
def numberReference (c : Char) : Bytes :=
  Utf8.encode ('&' :: '#' :: (Text.ofNat c.toNat ++ [';']))

/-- The bytes of a character, given the upper half of the charset. -/
def bytesOfChar (upper : List Nat) (c : Char) : Bytes :=
  match byteOfChar? upper c with
  | some b => [b]
  | none => numberReference c

end Charset

/-- Reads and writes text in the charsets of several octets.  The large tables of these are
not part of the library, so nothing is known of the two functions, and what is proved of
responses holds whatever they are. -/
class MultiOctet.Codec where
  decode : MultiOctet → Bytes → Text
  encode : MultiOctet → Text → Bytes

/-- Reads and writes the characters of ASCII, and no other. -/
@[reducible] def MultiOctet.Codec.ascii : MultiOctet.Codec where
  decode _ bytes := bytes.map (Charset.charOfByte [])
  encode _ text := text.flatMap (Charset.bytesOfChar [])

namespace Charset

variable [MultiOctet.Codec]

/-- The text of bytes in a charset.  A byte order mark counts as a character. -/
def decode (charset : Charset) (bytes : Bytes) : Text :=
  match charset with
  | utf8 => Utf8.decodeLossy bytes
  | utf16LittleEndian => Utf16.decode .littleEndian bytes
  | utf16BigEndian => Utf16.decode .bigEndian bytes
  | singleOctet set => bytes.map (charOfByte set.upper)
  | multiOctet set => MultiOctet.Codec.decode set bytes
  | replacement => if bytes.isEmpty then [] else [Utf8.replacement]

/-- The bytes of a text in a charset; what must not be decoded is written in UTF-8. -/
def encode (charset : Charset) (text : Text) : Bytes :=
  match charset with
  | utf8 | replacement => Utf8.encode text
  | utf16LittleEndian => Utf16.encode .littleEndian text
  | utf16BigEndian => Utf16.encode .bigEndian text
  | singleOctet set => text.flatMap (bytesOfChar set.upper)
  | multiOctet set => MultiOctet.Codec.encode set text

end Charset
end OutboundHttp
