import OutboundHttp.Decimal.Reading
import OutboundHttp.Toml.Moment
import OutboundHttp.Toml.Syntax

/-!
# Values of one word

Truth values, numbers, dates and times are single words.  Whole numbers must fit
sixty-four bits with a sign, and a number that is too large for a floating-point one is
no number.
-/
namespace OutboundHttp
namespace Toml

/-- The character may stand in a value of one word. -/
def isWordChar (c : Char) : Bool :=
  c.isAlphanum || c == '+' || c == '-' || c == '_' || c == '.' || c == ':'

/-- Digits of a class with single underscores between them, without the underscores. -/
def digitRun? (cls : Char → Bool) : Text → Option Text
  | [] => none
  | [c] => if cls c then some [c] else none
  | c :: '_' :: rest => if cls c then (digitRun? cls rest).map (c :: ·) else none
  | c :: rest => if cls c then (digitRun? cls rest).map (c :: ·) else none

/-- The value of digits in a base. -/
def based? (base : Nat) (cls : Char → Bool) (text : Text) : Option Int :=
  (digitRun? cls text).map fun digits => Int.ofNat (Text.ofDigits base digits)

/-- The sign of a number, and what follows it. -/
def splitSign : Text → Bool × Text
  | '-' :: rest => (true, rest)
  | '+' :: rest => (false, rest)
  | rest => (false, rest)

/-- The digits of a decimal number have no needless zero in front. -/
def wholeDigits? (text : Text) : Option Text := do
  let digits ← digitRun? Char.isDigit text
  if digits.length > 1 ∧ digits.head? = some '0' then none else some digits

/-- A whole number. -/
def integer? (text : Text) : Option Int := do
  let n ← match text with
    | '0' :: 'x' :: rest => based? 16 Text.isHexDigit rest
    | '0' :: 'o' :: rest => based? 8 (fun c => '0' ≤ c && c ≤ '7') rest
    | '0' :: 'b' :: rest => based? 2 (fun c => c == '0' || c == '1') rest
    | text => do
      let (minus, rest) := splitSign text
      let n := Int.ofNat (Text.ofDigits 10 (← wholeDigits? rest))
      some (if minus then -n else n)
  if Text.fitsInt64 n then some n else none

/-- The digits of an exponent behind its letter, with their sign. -/
def exponent? (text : Text) : Option Int := do
  let (minus, rest) := splitSign text
  let digits ← digitRun? Char.isDigit rest
  let n := Int.ofNat (Text.ofDigits 10 digits)
  some (if minus then -n else n)

/-- The magnitude of a number with a point or an exponent. -/
def magnitude? (text : Text) : Option Float := do
  let isWhole (c : Char) := c.isDigit || c == '_'
  let whole ← wholeDigits? (text.takeWhile isWhole)
  let rest := text.dropWhile isWhole
  let (fraction, rest) ← match rest with
    | '.' :: rest => do
      let fraction ← digitRun? Char.isDigit (rest.takeWhile isWhole)
      some (fraction, rest.dropWhile isWhole)
    | rest => some ([], rest)
  let exponent ← match rest with
    | [] => if fraction.isEmpty then none else some 0
    | c :: rest => if c = 'e' ∨ c = 'E' then exponent? rest else none
  let x := Decimal.nearest (Text.ofDigits 10 (whole ++ fraction))
    (exponent - (fraction.length : Int))
  if x.isInf then none else some x

/-- A floating-point number. -/
def float? (text : Text) : Option Float :=
  let (minus, rest) := splitSign text
  let magnitude :=
    if rest = ("inf" : Text) then some (1.0 / 0.0)
    else if rest = ("nan" : Text) then some (0.0 / 0.0)
    else magnitude? rest
  magnitude.map fun x => if minus then -x else x

/-- The value of one word. -/
def word? (text : Text) : Option Value :=
  if text = ("true" : Text) then some (.bool true)
  else if text = ("false" : Text) then some (.bool false)
  else
    ((moment? text).map Value.moment).or <|
      ((integer? text).map Value.integer).or ((float? text).map Value.float)

end Toml
end OutboundHttp
