import OutboundHttp.Decimal.Layout
import OutboundHttp.Decimal.Reading
import OutboundHttp.Json.Fault
import OutboundHttp.Json.Value

/-!
# Reading JSON numbers

A number without point and exponent that fits sixty-four bits is a whole number.  Any
other is a floating-point number made of at most sixty-four bits of digits and one
power of ten: digits that no longer fit are dropped, and the product or quotient is
rounded once.
-/
namespace OutboundHttp
namespace Json

/-- The digits so far can take no further digit. -/
def overflowsWord (significand digit : Nat) : Bool :=
  UInt64.size ≤ significand * 10 + digit

/-- The power of ten nearest to `10 ^ n`. -/
def powerOfTen (n : Nat) : Float := Float.ofScientific 1 false n

/-- The magnitude `x · 10 ^ exponent`; powers below the least representable one are
divided out in several steps, of which the third leaves nothing. -/
def scaled? : Nat → Float → Int → Option Float
  | steps, x, exponent =>
    if exponent.natAbs ≤ 308 then
      let power := powerOfTen exponent.natAbs
      if 0 ≤ exponent then
        let product := x * power
        if product.isInf then none else some product
      else some (x / power)
    else if x == 0.0 then some x
    else if 0 ≤ exponent then none
    else
      match steps with
      | 0 => some 0.0
      | steps + 1 => scaled? steps (x / powerOfTen 308) (exponent + 308)

/-- The number with the given sign, digits and power of ten. -/
def floatOfParts (c : Cursor) (positive : Bool) (significand : Nat) (exponent : Int) :
    Except Fault (JsonNumber × Cursor) :=
  match scaled? 4 significand.toUInt64.toFloat exponent with
  | none => throw (c.fault .numberTooLarge)
  | some x => return (.float (if positive then x else -x), c)

/-- Takes in digits while they fit, and says whether one did not. -/
def digitsFrom : Nat → Cursor → (significand taken : Nat) → Nat × Nat × Bool × Cursor
  | 0, c, significand, taken => (significand, taken, false, c)
  | fuel + 1, c, significand, taken =>
    match c.peek? with
    | some d =>
      if d.isDigit then
        let digit := d.toNat - 48
        if overflowsWord significand digit then (significand, taken, true, c)
        else digitsFrom fuel c.advance (significand * 10 + digit) (taken + 1)
      else (significand, taken, false, c)
    | none => (significand, taken, false, c)

/-- The digits of an exponent, or where they pass thirty-one bits. -/
def exponentDigits : Nat → Cursor → Nat → Except Cursor (Nat × Cursor)
  | 0, c, n => .ok (n, c)
  | fuel + 1, c, n =>
    match c.peek? with
    | some d =>
      if d.isDigit then
        let digit := d.toNat - 48
        if 0x80000000 ≤ n * 10 + digit then .error c.advance
        else exponentDigits fuel c.advance (n * 10 + digit)
      else .ok (n, c)
    | none => .ok (n, c)

/-- Reads on behind the digits of a number, at the letter of the exponent. -/
def readExponent (c : Cursor) (positive : Bool) (significand : Nat) (start : Int) :
    Except Fault (JsonNumber × Cursor) := do
  let c := c.advance
  let (up, c) := match c.peek? with
    | some '+' => (true, c.advance)
    | some '-' => (false, c.advance)
    | _ => (true, c)
  match c.peek? with
  | none => throw (c.fault .endInValue)
  | some d =>
    if !d.isDigit then throw (c.advance.fault .badNumber)
    match exponentDigits c.rest.length c 0 with
    | .ok (n, c) =>
      floatOfParts c positive significand (if up then start + n else start - n)
    | .error c =>
      if significand ≠ 0 && up then throw (c.fault .numberTooLarge)
      return (.float (if positive then 0.0 else -0.0), c.skipDigits)

/-- Reads an exponent if there is one. -/
def readTail (c : Cursor) (positive : Bool) (significand : Nat) (exponent : Int) :
    Except Fault (JsonNumber × Cursor) :=
  match c.peek? with
  | some 'e' | some 'E' => readExponent c positive significand exponent
  | _ => floatOfParts c positive significand exponent

/-- Reads on behind the digits of a number, at the point. -/
def readFraction (c : Cursor) (positive : Bool) (significand : Nat) (start : Int) :
    Except Fault (JsonNumber × Cursor) := do
  let c := c.advance
  let (significand, taken, full, c) := digitsFrom c.rest.length c significand 0
  if full then readTail c.skipDigits positive significand (start - taken)
  else if taken = 0 then
    match c.peek? with
    | some _ => throw (c.faultAhead .badNumber)
    | none => throw (c.faultAhead .endInValue)
  else readTail c positive significand (start - taken)

/-- Reads on behind digits that fit. -/
def readWhole (c : Cursor) (positive : Bool) (significand : Nat) :
    Except Fault (JsonNumber × Cursor) :=
  match c.peek? with
  | some '.' => readFraction c positive significand 0
  | some 'e' | some 'E' => readExponent c positive significand 0
  | _ =>
    if positive then return (.natural significand, c)
    else if significand = 0 || 0x8000000000000000 < significand then
      return (.float (-significand.toUInt64.toFloat), c)
    else return (.negative significand, c)

/-- Reads on at the first digit that does not fit. -/
def readLong (c : Cursor) (positive : Bool) (significand : Nat) :
    Except Fault (JsonNumber × Cursor) :=
  let dropped := (c.rest.takeWhile fun b => 0x30 ≤ b && b ≤ 0x39).length
  let c := c.advanceBy dropped
  match c.peek? with
  | some '.' => readFraction c positive significand dropped
  | _ => readTail c positive significand dropped

/-- Reads a number at its first digit, behind any sign. -/
def readNumber (c : Cursor) (positive : Bool) : Except Fault (JsonNumber × Cursor) := do
  match c.peek? with
  | none => throw (c.fault .endInValue)
  | some '0' =>
    let c := c.advance
    match c.peek? with
    | some d => if d.isDigit then throw (c.faultAhead .badNumber) else readWhole c positive 0
    | none => readWhole c positive 0
  | some d =>
    if !d.isDigit then throw (c.advance.fault .badNumber)
    let (significand, _, full, c) := digitsFrom c.rest.length c 0 0
    if full then readLong c positive significand else readWhole c positive significand

/-- How a number of the wrong kind is named. -/
def JsonNumber.describe : JsonNumber → Text
  | .natural n => ("integer `" : Text) ++ Text.ofNat n ++ ['`']
  | .negative n => ("integer `-" : Text) ++ Text.ofNat n ++ ['`']
  | .float x => ("floating point `" : Text) ++ Decimal.Layout.json.write x ++ ['`']

end Json
end OutboundHttp
