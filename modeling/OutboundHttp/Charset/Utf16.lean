import OutboundHttp.Text.Utf8

/-!
# UTF-16

A character is one unit of sixteen bits or a pair of two surrogates.  The reader never
fails: a surrogate without its partner becomes one replacement character, and so does
what is left of a unit at the end.
-/
namespace OutboundHttp
namespace Utf16

/-- The order of the two octets of a unit. -/
inductive ByteOrder where
  | littleEndian
  | bigEndian
  deriving DecidableEq, Repr

/-- The units of a character. -/
def unitsOf (c : Char) : List Nat :=
  let n := c.toNat
  if n < 0x10000 then [n]
  else [0xD800 + (n - 0x10000) / 0x400, 0xDC00 + (n - 0x10000) % 0x400]

/-- The octets of a unit. -/
def unitBytes (order : ByteOrder) (unit : Nat) : Bytes :=
  let high := UInt8.ofNat (unit / 256)
  let low := UInt8.ofNat (unit % 256)
  match order with
  | .littleEndian => [low, high]
  | .bigEndian => [high, low]

/-- The bytes of a text. -/
def encode (order : ByteOrder) (text : Text) : Bytes :=
  text.flatMap fun c => (unitsOf c).flatMap (unitBytes order)

/-- The unit of two octets. -/
def unit (order : ByteOrder) (first second : UInt8) : Nat :=
  match order with
  | .littleEndian => second.toNat * 256 + first.toNat
  | .bigEndian => first.toNat * 256 + second.toNat

/-- The unit is the first of a pair. -/
def isHigh (unit : Nat) : Bool := 0xD800 ≤ unit && unit ≤ 0xDBFF

/-- The unit is the second of a pair. -/
def isLow (unit : Nat) : Bool := 0xDC00 ≤ unit && unit ≤ 0xDFFF

/-- The characters that a unit completes when no first surrogate waits for it, and the
first surrogate that waits after it. -/
def lead (unit : Nat) : Text × Option Nat :=
  if isHigh unit then ([], some unit)
  else if isLow unit then ([Utf8.replacement], none)
  else ([Char.ofNat unit], none)

/-- The characters that a unit completes, and the first surrogate that waits after it. -/
def step : Option Nat → Nat → Text × Option Nat
  | none, unit => lead unit
  | some high, unit =>
    if isLow unit then
      ([Char.ofNat (0x10000 + (high - 0xD800) * 0x400 + (unit - 0xDC00))], none)
    else
      let (text, waiting) := lead unit
      (Utf8.replacement :: text, waiting)

/-- The text of the bytes that are left, while a first surrogate may wait. -/
def decodeFrom (order : ByteOrder) : Option Nat → Bytes → Text
  | waiting, first :: second :: rest =>
    let done := step waiting (unit order first second)
    done.1 ++ decodeFrom order done.2 rest
  | none, [] => []
  | _, _ => [Utf8.replacement]

/-- The text of a byte string. -/
def decode (order : ByteOrder) (bytes : Bytes) : Text :=
  decodeFrom order none bytes

end Utf16
end OutboundHttp
