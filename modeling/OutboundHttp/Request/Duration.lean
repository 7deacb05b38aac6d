import OutboundHttp.Decimal.Shortest

/-!
# Durations

A duration is a whole number of nanoseconds.  A floating-point number of seconds is
rounded to the nearest one, and of two equally near to the even one.
-/
namespace OutboundHttp

/-- A duration. -/
structure Duration where
  nanoseconds : Nat
  deriving DecidableEq, Repr

namespace Duration

/-- No time at all. -/
def zero : Duration := ⟨0⟩

/-- The nanoseconds of a second. -/
def perSecond : Nat := 1000000000

/-- The whole seconds. -/
def seconds (d : Duration) : Nat := d.nanoseconds / perSecond

/-- The nanoseconds beyond the whole seconds. -/
def subsecond (d : Duration) : Nat := d.nanoseconds % perSecond

/-- A quotient rounded to the nearest whole number, a half to the even one. -/
def roundDiv (num den : Nat) : Nat :=
  let q := num / den
  let r := num % den
  if 2 * r < den ∨ (2 * r = den ∧ q % 2 = 0) then q else q + 1

/-- The duration of some seconds; none for a number that is negative or no number, or
from `2 ^ 64` on. -/
def ofSeconds? (seconds : Float) : Option Duration :=
  if seconds < 0.0 || !seconds.isFinite then none
  else
    let x := Decimal.Binary.ofBits seconds.toBits
    let num := x.significand * Decimal.twoTo x.exponent.toNat
    let den := Decimal.twoTo (-x.exponent).toNat
    if UInt64.size * den ≤ num then none else some ⟨roundDiv (num * perSecond) den⟩

end Duration
end OutboundHttp
