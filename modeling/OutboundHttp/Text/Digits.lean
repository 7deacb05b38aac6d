import OutboundHttp.Text.Basic

/-!
# Digits

Numbers are written in decimal or in hexadecimal digits of ASCII.
-/
namespace OutboundHttp
namespace Text

/-- The value of a hexadecimal digit of either case. -/
def hexValue? (c : Char) : Option Nat :=
  if '0' ≤ c ∧ c ≤ '9' then some (c.toNat - 48)
  else if 'a' ≤ c ∧ c ≤ 'f' then some (c.toNat - 87)
  else if 'A' ≤ c ∧ c ≤ 'F' then some (c.toNat - 55)
  else none

/-- The character is a hexadecimal digit. -/
def isHexDigit (c : Char) : Bool :=
  (hexValue? c).isSome

/-- The upper-case hexadecimal digit of a number below sixteen. -/
def upperHexDigit (n : Nat) : Char :=
  if n < 10 then Char.ofNat (48 + n) else Char.ofNat (55 + n)

/-- The lower-case hexadecimal digit of a number below sixteen. -/
def lowerHexDigit (n : Nat) : Char :=
  if n < 10 then Char.ofNat (48 + n) else Char.ofNat (87 + n)

/-- The number that a run of digits stands for in a base; digits outside `0` to `9`
do not occur. -/
def ofDigits (base : Nat) (digits : Text) : Nat :=
  digits.foldl (fun n c => n * base + (hexValue? c).getD 0) 0

/-- The decimal text of a number. -/
def ofNat (n : Nat) : Text :=
  Nat.toDigits 10 n

/-- The decimal text of a number, with a minus sign in front of a negative one. -/
def ofInt : Int → Text
  | .ofNat n => ofNat n
  | .negSucc n => '-' :: ofNat (n + 1)

/-- The number that a non-empty text of decimal digits stands for. -/
def natValue? (text : Text) : Option Nat :=
  if !text.isEmpty && text.all Char.isDigit then some (ofDigits 10 text) else none

/-- The number fits sixty-four bits with a sign. -/
def fitsInt64 (n : Int) : Bool :=
  Int64.minValue.toInt ≤ n && n ≤ Int64.maxValue.toInt

/-- The lower-case hexadecimal text of a number, at least `width` digits long. -/
def hexOfNat (width n : Nat) : Text :=
  let digits := Nat.toDigits 16 n
  List.replicate (width - digits.length) '0' ++ digits

/-- A hexadecimal digit read back is the number it was written for. -/
theorem hexValue?_upperHexDigit {n : Nat} (h : n < 16) :
    hexValue? (upperHexDigit n) = some n := by
  have every : ∀ m ∈ List.range 16, hexValue? (upperHexDigit m) = some m := by decide
  exact every n (List.mem_range.mpr h)

end Text
end OutboundHttp
