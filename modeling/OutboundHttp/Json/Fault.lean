import OutboundHttp.Text.Digits
import OutboundHttp.Text.Utf8

/-!
# Where and why reading JSON stops

A reader of JSON stands at an octet of the text and counts lines and, within a line,
octets.  When it stops it says why and, unless the cause lies in the meaning of a value
that was itself well formed, where.
-/
namespace OutboundHttp
namespace Json

/-- Why a text is not what the reader wants. -/
inductive Cause where
  | endInValue
  | endInList
  | endInObject
  | endInText
  | expectedColon
  | expectedListEnd
  | expectedObjectEnd
  | expectedWord
  | expectedValue
  | badEscape
  | badNumber
  | numberTooLarge
  | loneSurrogate
  | brokenSurrogatePair
  | controlCharacter
  | nameNotText
  | trailingComma
  | trailingText
  | tooDeep
  /-- A value of another kind than the wanted one. -/
  | wrongKind (found wanted : Text)
  /-- A value of the right kind that the wanted one cannot have. -/
  | wrongValue (found wanted : Text)
  | missingMember (name : Text)
  | repeatedMember (name : Text)
  | wrongLength (found : Nat) (wanted : Text)
  /-- A cause that lies in the meaning of the value. -/
  | meaning (message : Text)
  deriving DecidableEq, Repr

/-- The wording of a cause. -/
def Cause.message : Cause → Text
  | .endInValue => "EOF while parsing a value"
  | .endInList => "EOF while parsing a list"
  | .endInObject => "EOF while parsing an object"
  | .endInText => "EOF while parsing a string"
  | .expectedColon => "expected `:`"
  | .expectedListEnd => "expected `,` or `]`"
  | .expectedObjectEnd => "expected `,` or `\x7d`"
  | .expectedWord => "expected ident"
  | .expectedValue => "expected value"
  | .badEscape => "invalid escape"
  | .badNumber => "invalid number"
  | .numberTooLarge => "number out of range"
  | .loneSurrogate => "lone leading surrogate in hex escape"
  | .brokenSurrogatePair => "unexpected end of hex escape"
  | .controlCharacter =>
    "control character (\\u0000-\\u001F) found while parsing a string"
  | .nameNotText => "key must be a string"
  | .trailingComma => "trailing comma"
  | .trailingText => "trailing characters"
  | .tooDeep => "recursion limit exceeded"
  | .wrongKind found wanted =>
    ("invalid type: " : Text) ++ found ++ (", expected " : Text) ++ wanted
  | .wrongValue found wanted =>
    ("invalid value: " : Text) ++ found ++ (", expected " : Text) ++ wanted
  | .missingMember name => ("missing field `" : Text) ++ name ++ ['`']
  | .repeatedMember name => ("duplicate field `" : Text) ++ name ++ ['`']
  | .wrongLength found wanted =>
    ("invalid length " : Text) ++ Text.ofNat found ++ (", expected " : Text) ++ wanted
  | .meaning message => message

/-- The octets that are left, the line they begin in, counted from one, and how many
octets of that line lie behind. -/
structure Cursor where
  rest : Bytes
  line : Nat
  column : Nat
  deriving DecidableEq, Repr

/-- A cause, with a line and a column if it has a place. -/
structure Fault where
  cause : Cause
  place : Option (Nat × Nat)
  deriving DecidableEq, Repr

/-- The wording of a fault. -/
def Fault.message (fault : Fault) : Text :=
  match fault.place with
  | none => fault.cause.message
  | some (line, column) =>
    fault.cause.message ++ (" at line " : Text) ++ Text.ofNat line ++
      (" column " : Text) ++ Text.ofNat column

namespace Cursor

/-- The start of a text. -/
def start (bytes : Bytes) : Cursor := ⟨bytes, 1, 0⟩

/-- The next octet, as the character of the same number. -/
def peek? (c : Cursor) : Option Char :=
  c.rest.head?.map fun b => Char.ofNat b.toNat

/-- One octet further. -/
def advance (c : Cursor) : Cursor :=
  match c.rest with
  | [] => c
  | b :: rest => if b = 0x0A then ⟨rest, c.line + 1, 0⟩ else ⟨rest, c.line, c.column + 1⟩

/-- Some octets further. -/
def advanceBy (c : Cursor) : Nat → Cursor
  | 0 => c
  | n + 1 => c.advance.advanceBy n

/-- Past the white space. -/
def skipSpace (c : Cursor) : Cursor :=
  c.advanceBy (c.rest.takeWhile fun b => b = 0x20 || b = 0x0A || b = 0x09 || b = 0x0D).length

/-- Past the decimal digits. -/
def skipDigits (c : Cursor) : Cursor :=
  c.advanceBy (c.rest.takeWhile fun b => 0x30 ≤ b && b ≤ 0x39).length

/-- A fault found between the last octet and the next. -/
def fault (c : Cursor) (cause : Cause) : Fault := ⟨cause, some (c.line, c.column)⟩

/-- A fault found in the next octet. -/
def faultAhead (c : Cursor) (cause : Cause) : Fault := c.advance.fault cause

end Cursor
end Json
end OutboundHttp
