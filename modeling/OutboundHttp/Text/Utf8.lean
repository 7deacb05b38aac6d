import OutboundHttp.Text.Basic

/-!
# UTF-8

Texts become bytes by UTF-8, and bytes become text again by a reader that takes one
octet after another.  The reader never fails: each longest start of a character that
does not go on as a character must becomes one replacement character.
-/
namespace OutboundHttp
namespace Utf8

/-- The bytes of a text. -/
def encode (text : Text) : Bytes :=
  text.flatMap String.utf8EncodeChar

/-- The number of bytes of a text. -/
def size (text : Text) : Nat :=
  text.foldl (fun n c => n + c.utf8Size) 0

/-- What stands in for bytes that are no character. -/
def replacement : Char := '\uFFFD'

/-- Where the reader stands: between two characters, or inside one that still wants
`wanting + 1` octets, the next of them from `least` to `most`, with `value` made of
the octets already seen. -/
inductive State where
  | between
  | inside (wanting : Nat) (value : Nat) (least most : UInt8)
  deriving DecidableEq, Repr

/-- The characters that an octet completes when it comes first in a character, and
where the reader stands after it. -/
def lead (b : UInt8) : Text × State :=
  if b < 0x80 then ([Char.ofNat b.toNat], .between)
  else if 0xC2 ≤ b ∧ b ≤ 0xDF then ([], .inside 0 (b.toNat - 0xC0) 0x80 0xBF)
  else if b = 0xE0 then ([], .inside 1 0 0xA0 0xBF)
  else if b = 0xED then ([], .inside 1 0xD 0x80 0x9F)
  else if 0xE1 ≤ b ∧ b ≤ 0xEF then ([], .inside 1 (b.toNat - 0xE0) 0x80 0xBF)
  else if b = 0xF0 then ([], .inside 2 0 0x90 0xBF)
  else if 0xF1 ≤ b ∧ b ≤ 0xF3 then ([], .inside 2 (b.toNat - 0xF0) 0x80 0xBF)
  else if b = 0xF4 then ([], .inside 2 4 0x80 0x8F)
  else ([replacement], .between)

/-- The characters that an octet completes, and where the reader stands after it. -/
def step : State → UInt8 → Text × State
  | .between, b => lead b
  | .inside wanting value least most, b =>
    if least ≤ b ∧ b ≤ most then
      let value := value * 64 + (b.toNat - 0x80)
      match wanting with
      | 0 => ([Char.ofNat value], .between)
      | wanting + 1 => ([], .inside wanting value 0x80 0xBF)
    else
      let (text, state) := lead b
      (replacement :: text, state)

/-- The text of the bytes that are left, read from a given state. -/
def decodeFrom : State → Bytes → Text
  | .between, [] => []
  | .inside .., [] => [replacement]
  | state, b :: rest => (step state b).1 ++ decodeFrom (step state b).2 rest

/-- The text of a byte string, with a replacement character for what is no UTF-8. -/
def decodeLossy (bytes : Bytes) : Text :=
  decodeFrom .between bytes

/-- The text of a byte string that is UTF-8 throughout. -/
def decode? (bytes : Bytes) : Option Text :=
  let text := decodeLossy bytes
  if encode text = bytes then some text else none

@[simp] theorem encode_nil : encode [] = [] := rfl

@[simp] theorem encode_cons (c : Char) (text : Text) :
    encode (c :: text) = String.utf8EncodeChar c ++ encode text := rfl

@[simp] theorem encode_append (a b : Text) : encode (a ++ b) = encode a ++ encode b := by
  simp [encode]

end Utf8
end OutboundHttp
