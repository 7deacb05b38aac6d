import OutboundHttp.Text.Digits

/-!
# Dates and times

A date, a time, or a date and a time with or without an offset.  The standard form has
the letters `T` and `Z` in upper case, at most nine decimals of a second without zeros
at their end, and no negative offset of zero.
-/
namespace OutboundHttp
namespace Toml

/-- Takes exactly `n` decimal digits from the front of a text. -/
def takeDigits (n : Nat) (text : Text) : Option (Nat × Text) :=
  let digits := text.take n
  if digits.length = n ∧ digits.all Char.isDigit then
    some (Text.ofDigits 10 digits, text.drop n)
  else none

/-- Takes a character from the front of a text. -/
def takeChar (c : Char) : Text → Option Text
  | d :: rest => if d = c then some rest else none
  | [] => none

/-- The number of days of a month. -/
def daysIn (year month : Nat) : Nat :=
  if month = 2 then
    if year % 4 = 0 ∧ (year % 100 ≠ 0 ∨ year % 400 = 0) then 29 else 28
  else if month = 4 ∨ month = 6 ∨ month = 9 ∨ month = 11 then 30
  else 31

/-- A number below a hundred as two digits. -/
def twoDigits (n : Nat) : Text :=
  Text.ofNat (n / 10) ++ Text.ofNat (n % 10)

/-- Takes a date, in its standard form, from the front of a text. -/
def takeDate (text : Text) : Option (Text × Text) := do
  let (year, rest) ← takeDigits 4 text
  let rest ← takeChar '-' rest
  let (month, rest) ← takeDigits 2 rest
  let rest ← takeChar '-' rest
  let (day, rest) ← takeDigits 2 rest
  if 1 ≤ month ∧ month ≤ 12 ∧ 1 ≤ day ∧ day ≤ daysIn year month then
    some (text.take 10, rest)
  else none

/-- The decimals of a second in their standard form, with the point before them. -/
def fractionText (digits : Text) : Text :=
  let kept := Text.trimEnd (· == '0') (digits.take 9)
  '.' :: (if kept.isEmpty then ['0'] else kept)

/-- Takes a time, in its standard form, from the front of a text. -/
def takeTime (text : Text) : Option (Text × Text) := do
  let (hour, rest) ← takeDigits 2 text
  let rest ← takeChar ':' rest
  let (minute, rest) ← takeDigits 2 rest
  if 23 < hour ∨ 59 < minute then none
  else
    let head := twoDigits hour ++ ':' :: twoDigits minute
    match rest with
    | ':' :: rest =>
      let (second, rest) ← takeDigits 2 rest
      if 60 < second then none
      else
        let head := head ++ ':' :: twoDigits second
        match rest with
        | '.' :: rest =>
          let digits := rest.takeWhile Char.isDigit
          if digits.isEmpty then none
          else some (head ++ fractionText digits, rest.dropWhile Char.isDigit)
        | rest => some (head, rest)
    | rest => some (head, rest)

/-- An offset, in its standard form. -/
def offset? : Text → Option Text
  | [] => some []
  | c :: rest =>
    if c = 'Z' ∨ c = 'z' then
      if rest.isEmpty then some ['Z'] else none
    else if c = '+' ∨ c = '-' then do
      let (hours, rest) ← takeDigits 2 rest
      let rest ← takeChar ':' rest
      let (minutes, rest) ← takeDigits 2 rest
      if 23 < hours ∨ 59 < minutes ∨ !rest.isEmpty then none
      else
        let sign := if hours = 0 ∧ minutes = 0 then '+' else c
        some (sign :: (twoDigits hours ++ ':' :: twoDigits minutes))
    else none

/-- The date or time that a text stands for, in its standard form. -/
def moment? (text : Text) : Option Text :=
  match takeDate text with
  | some (date, []) => some date
  | some (date, mark :: rest) =>
    if mark = 'T' ∨ mark = 't' ∨ mark = ' ' then do
      let (time, rest) ← takeTime rest
      let offset ← offset? rest
      some (date ++ 'T' :: (time ++ offset))
    else none
  | none =>
    match takeTime text with
    | some (time, []) => some time
    | _ => none

end Toml
end OutboundHttp
