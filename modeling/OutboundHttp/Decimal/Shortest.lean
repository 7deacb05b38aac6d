/-!
# The fewest digits that read back

A floating-point number stands for every real that rounds to it.  Among the decimals in
that range the shortest is chosen, and among the shortest the one nearest to the number
itself.  All comparisons are made on whole numbers, so the choice is exact.
-/
namespace OutboundHttp
namespace Decimal

/-- A power of two. -/
def twoTo (n : Nat) : Nat := Nat.pow 2 n

/-- A power of ten. -/
def tenTo (n : Nat) : Nat := Nat.pow 10 n

/-- The finite number `significand · 2 ^ exponent` with the reals that round to it. -/
structure Binary where
  significand : Nat
  exponent : Int
  /-- The number below lies half as far away as the number above. -/
  narrowBelow : Bool
  deriving DecidableEq, Repr

/-- The magnitude that the bits of a finite floating-point number stand for. -/
def Binary.ofBits (bits : UInt64) : Binary :=
  let field := ((bits >>> 52) &&& 0x7FF).toNat
  let fraction := (bits &&& 0xFFFFFFFFFFFFF).toNat
  if field = 0 then ⟨fraction, -1074, false⟩
  else ⟨twoTo 52 + fraction, (field : Int) - 1075, fraction = 0 ∧ 1 < field⟩

/-- The decimal `digits · 10 ^ exponent`. -/
structure Digits where
  digits : Nat
  exponent : Int
  deriving DecidableEq, Repr

/-- Which of two equally near decimals is taken. -/
inductive Tie where
  | toEven
  | up
  deriving DecidableEq, Repr

/-- Compares `a · 10 ^ i` with `b · 2 ^ j`. -/
def compareScaled (a : Nat) (i : Int) (b : Nat) (j : Int) : Ordering :=
  compare (a * tenTo i.toNat * twoTo (-j).toNat) (b * twoTo j.toNat * tenTo (-i).toNat)

/-- The decimal rounds to the number: it lies between the points halfway to the two
neighbours, or on one of them if the significand is even. -/
def Binary.readsBack (x : Binary) (d : Digits) : Bool :=
  let least := if x.narrowBelow then 4 * x.significand - 1 else 4 * x.significand - 2
  let most := 4 * x.significand + 2
  let closed := x.significand % 2 == 0
  let below := compareScaled d.digits d.exponent least (x.exponent - 2)
  let above := compareScaled d.digits d.exponent most (x.exponent - 2)
  (below == .gt || (closed && below == .eq)) && (above == .lt || (closed && above == .eq))

/-- The number in units of `10 ^ i`, rounded down. -/
def Binary.floorAt (x : Binary) (i : Int) : Nat :=
  (x.significand * twoTo x.exponent.toNat * tenTo (-i).toNat) /
    (tenTo i.toNat * twoTo (-x.exponent).toNat)

/-- The decimal in units of `10 ^ i` that reads back as the number and is nearest to
it, if there is one. -/
def Binary.onGrid? (x : Binary) (tie : Tie) (i : Int) : Option Digits :=
  let low := x.floorAt i
  let down : Digits := ⟨low, i⟩
  let up : Digits := ⟨low + 1, i⟩
  match x.readsBack down, x.readsBack up with
  | false, false => none
  | true, false => some down
  | false, true => some up
  | true, true =>
    match compareScaled (2 * low + 1) i (2 * x.significand) x.exponent with
    | .gt => some down
    | .lt => some up
    | .eq => some (if tie = .toEven ∧ low % 2 = 0 then down else up)

/-- The exponent of the first digit of a number that is not zero, found from a guess
that is too large by trying one place after another. -/
def Binary.leadingPlace (x : Binary) : Nat → Int → Int
  | 0, guess => guess
  | tries + 1, guess => if x.floorAt guess = 0 then x.leadingPlace tries (guess - 1) else guess

/-- The same decimal without zeros at its end. -/
def Digits.stripped : Nat → Digits → Digits
  | 0, d => d
  | limit + 1, d =>
    if d.digits ≠ 0 ∧ d.digits % 10 = 0 then Digits.stripped limit ⟨d.digits / 10, d.exponent + 1⟩
    else d

/-- The shortest decimal that reads back as the number.  Seventeen digits are enough;
the number itself is written out should they not be. -/
def Binary.shortest (x : Binary) (tie : Tie) : Digits :=
  if x.significand = 0 then ⟨0, 0⟩
  else
    let place := x.leadingPlace 640 309
    let found := (List.range 17).findSome? fun (more : Nat) => x.onGrid? tie (place - more)
    let places := (-x.exponent).toNat
    let exact : Digits :=
      ⟨x.significand * twoTo x.exponent.toNat * Nat.pow 5 places, min x.exponent 0⟩
    (found.getD exact).stripped 400

end Decimal
end OutboundHttp
