import OutboundHttp.Text.Digits

/-!
# Reading floating-point numbers

A number is written as an optional sign, digits with perhaps a point among them, and
perhaps an exponent; or it is one of the words for infinity and for what is no number.
The text is read as the floating-point number nearest to it.
-/
namespace OutboundHttp
namespace Decimal

/-- The floating-point number nearest to `digits · 10 ^ exponent`.  Exponents so far out
that the result is zero or infinite whatever the digits are cut short. -/
def nearest (digits : Nat) (exponent : Int) : Float :=
  if digits = 0 then 0.0
  else
    let leading := exponent + ((Text.ofNat digits).length : Int)
    if 400 < leading then 1.0 / 0.0
    else if leading < -400 then 0.0
    else if 0 ≤ exponent then Float.ofScientific digits false exponent.toNat
    else Float.ofScientific digits true (-exponent).toNat

/-- The value of an exponent: an optional sign and at least one digit. -/
def exponentValue? (text : Text) : Option Int :=
  match text with
  | '-' :: digits => (Text.natValue? digits).map fun n => -(n : Int)
  | '+' :: digits => (Text.natValue? digits).map Int.ofNat
  | digits => (Text.natValue? digits).map Int.ofNat

/-- The value of digits with perhaps a point and perhaps an exponent. -/
def magnitudeValue? (text : Text) : Option Float := do
  let whole := text.takeWhile Char.isDigit
  let rest := text.dropWhile Char.isDigit
  let (fraction, rest) := match rest with
    | '.' :: rest => (rest.takeWhile Char.isDigit, rest.dropWhile Char.isDigit)
    | rest => ([], rest)
  if whole.isEmpty && fraction.isEmpty then none
  else
    let exponent ← match rest with
      | [] => some 0
      | c :: rest => if c = 'e' ∨ c = 'E' then exponentValue? rest else none
    some (nearest (Text.ofDigits 10 (whole ++ fraction)) (exponent - (fraction.length : Int)))

/-- The value of a text without its sign. -/
def unsignedValue? (text : Text) : Option Float :=
  let word := Text.lowerAscii text
  if word = ("inf" : Text) ∨ word = ("infinity" : Text) then some (1.0 / 0.0)
  else if word = ("nan" : Text) then some (0.0 / 0.0)
  else magnitudeValue? text

/-- The number that a text stands for. -/
def floatValue? (text : Text) : Option Float :=
  match text with
  | '-' :: rest => (unsignedValue? rest).map fun x => -x
  | '+' :: rest => unsignedValue? rest
  | rest => unsignedValue? rest

end Decimal
end OutboundHttp
