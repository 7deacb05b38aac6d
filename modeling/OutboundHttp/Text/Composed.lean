import OutboundHttp.Text.Basic
import OutboundHttp.Text.Composed.Classes
import OutboundHttp.Text.Composed.Pairs

/-!
# Composed texts

Texts that look alike and mean the same may be written with different characters: a
letter with its mark or the letter and the mark, two marks in either order, a Korean
syllable or its sounds.  The composed form is the same for all of them: pairs are taken
apart, marks put in order, and what can be one character becomes one.
-/
namespace OutboundHttp
namespace Text

/-- How many sounds can begin a Korean syllable. -/
def beginnings : Nat := 19

/-- How many sounds can stand in the middle of a Korean syllable. -/
def middles : Nat := 21

/-- How many ways there are to end a Korean syllable; the first of them is without a sound. -/
def endings : Nat := 28

/-- The first sound that can begin a Korean syllable. -/
def firstBeginning : Nat := 0x1100

/-- The first sound that can stand in its middle. -/
def firstMiddle : Nat := 0x1161

/-- The code point before the first sound that can end it. -/
def noEnding : Nat := 0x11A7

/-- The first Korean syllable; the others follow in the order of their sounds. -/
def firstSyllable : Nat := 0xAC00

/-- The code point is a Korean syllable. -/
def isSyllable (n : Nat) : Bool :=
  firstSyllable ≤ n && n < firstSyllable + beginnings * middles * endings

/-- The sounds of a Korean syllable. -/
def soundsOf (n : Nat) : Text :=
  let place := n - firstSyllable
  let opening := [firstBeginning + place / (middles * endings),
    firstMiddle + place / endings % middles]
  let last := place % endings
  (if last = 0 then opening else opening ++ [noEnding + last]).map Char.ofNat

/-- The character taken apart, and the first of its pair in turn, `depth` times at most. -/
def takeApart : (depth : Nat) → Char → Text
  | 0, c => [c]
  | depth + 1, c =>
    let n := c.toNat
    if n < 0xC0 then [c]
    else if isSyllable n then soundsOf n
    else
      match composedPairs.lookup n with
      | some (first, second) => takeApart depth (Char.ofNat first) ++ [Char.ofNat second]
      | none => [c]

/-- The text with a character in front, behind the marks that go before it. -/
def insertMark (c : Char) : Text → Text
  | [] => [c]
  | d :: rest =>
    if combiningClass d ≠ 0 ∧ combiningClass d < combiningClass c then d :: insertMark c rest
    else c :: d :: rest

/-- How often the first of a pair may stand for a pair itself, and once more. -/
def pairDepth : Nat := 4

/-- The text taken apart, with its marks in the order of their classes. -/
def apart (text : Text) : Text :=
  (text.flatMap (takeApart pairDepth)).foldr insertMark []

/-- The Korean syllable that two sounds make, or a syllable without an ending and a sound
that can end it. -/
def syllable? (a b : Nat) : Option Nat :=
  if firstBeginning ≤ a ∧ a < firstBeginning + beginnings ∧
      firstMiddle ≤ b ∧ b < firstMiddle + middles then
    some (firstSyllable + ((a - firstBeginning) * middles + (b - firstMiddle)) * endings)
  else if isSyllable a ∧ (a - firstSyllable) % endings = 0 ∧
      noEnding < b ∧ b < noEnding + endings then
    some (a + (b - noEnding))
  else none

/-- The character that a pair of characters is, if there is one. -/
def compose? (a b : Char) : Option Char :=
  if b.toNat < 0x300 then none
  else
    let pair := (composedPairs.find? fun (_, pair) => pair == (a.toNat, b.toNat)).map Prod.fst
    (pair <|> syllable? a.toNat b.toNat).map Char.ofNat

/-- The text behind the character `c`, composed with it.  The marks between them did not
compose; a mark hides `c` from those that are of no higher class. -/
def composeWith (c : Char) : (marks : Text) → Text → Text
  | marks, [] => c :: marks
  | marks, d :: rest =>
    let hidden := marks.getLast?.any fun mark => combiningClass d ≤ combiningClass mark
    match if hidden then none else compose? c d with
    | some composed => composeWith composed marks rest
    | none =>
      if combiningClass d = 0 then c :: (marks ++ composeWith d [] rest)
      else composeWith c (marks ++ [d]) rest

/-- The composed form of a text.  Characters that are replaced for good when a name is
folded, since they never stand for a pair, are left as they are. -/
def composed (text : Text) : Text :=
  let apart := apart text
  let isLoose (c : Char) := combiningClass c != 0
  apart.takeWhile isLoose ++
    match apart.dropWhile isLoose with
    | [] => []
    | c :: rest => composeWith c [] rest

end Text
end OutboundHttp
