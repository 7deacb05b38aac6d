import OutboundHttp.Decimal.Layout
import OutboundHttp.Decimal.Reading
import OutboundHttp.Settings.Tree

/-!
# Settings as wanted values

A setting need not be written as the kind of value it is wanted as: numbers, truth
values and texts stand for each other as far as they reasonably can.  Lists and tables
stand for nothing else.
-/
namespace OutboundHttp
namespace Settings

/-- A word for yes or no. -/
def word? (text : Text) : Option Bool :=
  let word := Text.lowerAscii text
  if word = ("true" : Text) ∨ word = ("on" : Text) ∨ word = ("yes" : Text) then some true
  else if word = ("false" : Text) ∨ word = ("off" : Text) ∨ word = ("no" : Text) then some false
  else none

/-- The whole number that a text with an optional sign stands for. -/
def integerValue? : Text → Option Int
  | '-' :: digits => (Text.natValue? digits).map fun n => -Int.ofNat n
  | '+' :: digits => (Text.natValue? digits).map Int.ofNat
  | digits => (Text.natValue? digits).map Int.ofNat

/-- The floating-point number nearest to a whole number of sixty-four bits. -/
def floatOfInt (n : Int) : Float :=
  let x := n.natAbs.toUInt64.toFloat
  if n < 0 then -x else x

namespace Tree

/-- A truth value: a number that is not zero, or a word or digit for it. -/
def bool? : Tree → Option Bool
  | bool b => some b
  | integer n => some (n != 0)
  | float x => some (x != 0.0)
  | text t =>
    if t = ['1'] then some true
    else if t = ['0'] then some false
    else word? t
  | _ => none

/-- A text: a number without an exponent, or a word. -/
def text? : Tree → Option Text
  | text t => some t
  | bool b => some (if b then "true" else "false")
  | integer n => some (Text.ofInt n)
  | float x => some (Decimal.Layout.textual.write x)
  | _ => none

/-- A floating-point number. -/
def float? : Tree → Option Float
  | float x => some x
  | integer n => some (floatOfInt n)
  | bool b => some (if b then 1.0 else 0.0)
  | text t =>
    match word? t with
    | some b => some (if b then 1.0 else 0.0)
    | none => Decimal.floatValue? t
  | _ => none

/-- A whole number of sixteen bits; a floating-point number is rounded, halves away
from zero, and is no less than zero. -/
def code? : Tree → Option UInt16
  | integer n => if 0 ≤ n ∧ n < 65536 then some n.toNat.toUInt16 else none
  | bool b => some (if b then 1 else 0)
  | float x =>
    let rounded := x.round
    if rounded < 65536.0 then some (if rounded > 0.0 then rounded.toUInt16 else 0)
    else if x.isNaN then some 0
    else none
  | text t =>
    match word? t with
    | some b => some (if b then 1 else 0)
    | none =>
      let digits := match t with
        | '+' :: digits => digits
        | digits => digits
      match Text.natValue? digits with
      | some n => if n < 65536 then some n.toUInt16 else none
      | none => none
  | _ => none

/-- A list of such numbers. -/
def codes? : Tree → Option (List UInt16)
  | list items => items.mapM code?
  | _ => none

/-- A map of texts. -/
def texts? : Tree → Option (SortedMap Text Text)
  | table members =>
    (members.mapM fun (m : Text × Tree) => (text? m.2).map (m.1, ·)).map SortedMap.ofList
  | _ => none

end Tree
end Settings
end OutboundHttp
