import OutboundHttp.Text.Basic

/-!
# Punycode

A label with characters beyond ASCII is written with ASCII alone: first its ASCII
characters, then, for each other character in the order of code points, how far one has
to count to reach it.  The counts are numbers of base thirty-six with digits that end
themselves, and what a last digit may be is adapted as the counting goes on.
-/
namespace OutboundHttp
namespace Punycode

/-- The digit of a number below thirty-six. -/
def digit (n : Nat) : Char :=
  if n < 26 then Char.ofNat (97 + n) else Char.ofNat (22 + n)

/-- The number of a digit of either case. -/
def value? (c : Char) : Option Nat :=
  if c.isUpper then some (c.toNat - 65)
  else if c.isLower then some (c.toNat - 97)
  else if c.isDigit then some (c.toNat - 22)
  else none

/-- The least number whose digit goes on, at a place and a bias. -/
def threshold (place bias : Nat) : Nat :=
  min 26 (max 1 (place - bias))

/-- Brings a difference down to where the bias is read off. -/
def settle : Nat → (delta place : Nat) → Nat
  | 0, _, place => place
  | fuel + 1, delta, place =>
    if 455 < delta then settle fuel (delta / 35) (place + 36)
    else place + 36 * delta / (delta + 38)

/-- The bias after a difference, when `count` characters are known. -/
def adapt (delta count : Nat) (first : Bool) : Nat :=
  let delta := if first then delta / 700 else delta / 2
  let delta := delta + delta / count
  settle delta delta 0

/-- A number as digits that end themselves. -/
def digits : Nat → (n place bias : Nat) → Text
  | 0, _, _, _ => []
  | fuel + 1, n, place, bias =>
    let t := threshold place bias
    if n < t then [digit n]
    else digit (t + (n - t) % (36 - t)) :: digits fuel ((n - t) / (36 - t)) (place + 36) bias

/-- What is known while a label is written. -/
structure Writing where
  delta : Nat
  bias : Nat
  /-- How many characters are written already. -/
  count : Nat
  out : Text

/-- Counts past one character of the label on the way to the code point `n`. -/
def countChar (basic n : Nat) (w : Writing) (c : Char) : Writing :=
  if c.toNat < n then { w with delta := w.delta + 1 }
  else if c.toNat = n then
    { delta := 0
      bias := adapt w.delta (w.count + 1) (w.count == basic)
      count := w.count + 1
      out := w.out ++ digits (w.delta + 1) w.delta 36 w.bias }
  else w

/-- Writes the characters beyond ASCII, from the code point `n` on. -/
def encodeFrom (label : Text) (basic : Nat) : Nat → (n : Nat) → Writing → Writing
  | 0, _, w => w
  | fuel + 1, n, w =>
    match (label.filter fun c => n ≤ c.toNat).map Char.toNat |>.min? with
    | none => w
    | some m =>
      let w := { w with delta := w.delta + (m - n) * (w.count + 1) }
      let w := label.foldl (countChar basic m) w
      encodeFrom label basic fuel (m + 1) { w with delta := w.delta + 1 }

/-- A label in ASCII. -/
def encode (label : Text) : Text :=
  let basic := label.filter fun c => c.toNat < 0x80
  let start := if basic.isEmpty then [] else basic ++ ['-']
  (encodeFrom label basic.length (label.length + 1) 0x80 ⟨0, 72, basic.length, start⟩).out

/-- Reads one number; neither it nor the weight of a digit may pass thirty-two bits. -/
def number? : Text → (place bias weight sum : Nat) → Option (Nat × Text)
  | [], _, _, _, _ => none
  | c :: rest, place, bias, weight, sum => do
    let n ← value? c
    let sum := sum + n * weight
    let t := threshold place bias
    if UInt32.size ≤ sum then none
    else if n < t then some (sum, rest)
    else
      let weight := weight * (36 - t)
      if UInt32.size ≤ weight then none else number? rest (place + 36) bias weight sum

/-- Puts the characters that numbers stand for among those known. -/
def decodeFrom : Nat → (rest : Text) → (n i bias : Nat) → (known : Text) → Option Text
  | 0, _, _, _, _, _ => none
  | _ + 1, [], _, _, _, known => some known
  | fuel + 1, rest, n, i, bias, known => do
    let (sum, rest) ← number? rest 36 bias 1 i
    let count := known.length + 1
    let n := n + sum / count
    let place := sum % count
    if n.isValidChar then
      decodeFrom fuel rest n (place + 1) (adapt (sum - i) count (i == 0))
        (known.take place ++ Char.ofNat n :: known.drop place)
    else none

/-- The label that a text in ASCII stands for.  A hyphen follows the characters of ASCII
only if there are any. -/
def decode? (text : Text) : Option Text :=
  match Text.beforeLast? '-' text with
  | some [] => none
  | some basic => decodeFrom (text.length + 1) (text.drop (basic.length + 1)) 0x80 0 72 basic
  | none => decodeFrom (text.length + 1) text 0x80 0 72 []

end Punycode
end OutboundHttp
