import OutboundHttp.Decimal.Shortest
import OutboundHttp.Text.Digits

/-!
# Writing floating-point numbers

Which digits are written is settled by `Binary.shortest`; this module settles how they
are laid out.  A layout says which numbers are written with a plain point and which
with an exponent, whether an exponent has a plus sign, and whether a whole number keeps
a point and a zero.
-/
namespace OutboundHttp
namespace Decimal

/-- The decisions of one way to write numbers. -/
structure Layout where
  /-- The exponents of the first digit from which and below which a number is written
  without an exponent; every number is if there are none. -/
  plain : Option (Int × Int)
  /-- A whole number written without an exponent ends in `.0`. -/
  pointZero : Bool
  /-- A positive exponent has its sign. -/
  plusSign : Bool
  tie : Tie

/-- Numbers inside JSON text. -/
def Layout.json : Layout where
  plain := some (-5, 16)
  pointZero := true
  plusSign := true
  tie := .toEven

/-- Numbers shown to a programmer. -/
def Layout.shown : Layout where
  plain := some (-4, 16)
  pointZero := true
  plusSign := false
  tie := .up

/-- Numbers that stand in for a text. -/
def Layout.textual : Layout where
  plain := none
  pointZero := false
  plusSign := false
  tie := .up

/-- A decimal without an exponent. -/
def plainText (pointZero : Bool) (digits : Text) (exponent : Int) : Text :=
  if 0 ≤ exponent then
    digits ++ List.replicate exponent.toNat '0' ++ (if pointZero then ['.', '0'] else [])
  else
    let places := (-exponent).toNat
    if places < digits.length then
      digits.take (digits.length - places) ++ '.' :: digits.drop (digits.length - places)
    else '0' :: '.' :: (List.replicate (places - digits.length) '0' ++ digits)

/-- A decimal with one digit before the point and an exponent. -/
def scientificText (plusSign : Bool) (digits : Text) (leading : Int) : Text :=
  let fraction := if digits.length ≤ 1 then [] else '.' :: digits.drop 1
  let sign := if plusSign && 0 < leading then ['+'] else []
  digits.take 1 ++ fraction ++ 'e' :: (sign ++ Text.ofInt leading)

/-- The text of the magnitude of a finite number. -/
def Layout.magnitude (l : Layout) (x : Binary) : Text :=
  let d := x.shortest l.tie
  let digits := Text.ofNat d.digits
  let leading := d.exponent + (digits.length : Int) - 1
  match l.plain with
  | none => plainText l.pointZero digits d.exponent
  | some (least, limit) =>
    if d.digits = 0 ∨ (least ≤ leading ∧ leading < limit) then
      plainText l.pointZero digits d.exponent
    else scientificText l.plusSign digits leading

/-- The text of a number. -/
def Layout.write (l : Layout) (x : Float) : Text :=
  let bits := x.toBits
  if x.isNaN then "NaN"
  else
    let sign : Text := if bits >>> 63 = 1 then ['-'] else []
    if x.isInf then sign ++ ("inf" : Text) else sign ++ l.magnitude (Binary.ofBits bits)

end Decimal
end OutboundHttp
