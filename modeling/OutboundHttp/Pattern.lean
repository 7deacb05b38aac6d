import OutboundHttp.Text.Basic

/-!
# Patterns with an order of preference

A pattern is matched from left to right.  Where it can go on in several ways they are
tried in a fixed order: the first alternative before the second, one more repetition
before one fewer.  The matches of a pattern at a place are therefore a list, and the
match that counts is its head.

Every repeated pattern is meant to take at least one character each time, so that as
many turns are enough as the text has characters.
-/
namespace OutboundHttp

/-- A pattern whose captured parts are named by `ν`. -/
inductive Pattern (ν : Type) where
  /-- The empty text. -/
  | empty
  /-- The empty text, at the very start only. -/
  | atStart
  /-- The empty text, at the very end only. -/
  | atEnd
  /-- One character of a class. -/
  | one (cls : Char → Bool)
  /-- A run of characters of a class, the longer the better: at least `least` and,
  if a bound is given, at most that many. -/
  | run (least : Nat) (most : Option Nat) (cls : Char → Bool)
  /-- The one and then the other. -/
  | both (first second : Pattern ν)
  /-- The one or, failing that, the other. -/
  | either (first second : Pattern ν)
  /-- Any number of repetitions, the more the better. -/
  | many (body : Pattern ν)
  /-- What the body matches is kept under a name. -/
  | capture (name : ν) (body : Pattern ν)

namespace Pattern

variable {ν : Type}

/-- A piece of a text: where it starts, and how many characters it has. -/
structure Span where
  start : Text
  size : Nat
  deriving DecidableEq, Repr

/-- The characters of a piece. -/
def Span.chars (s : Span) : Text :=
  s.start.take s.size

/-- Where a match has come to: the text that is left, how many characters lie behind,
and the parts captured so far, the latest first. -/
structure Place (ν : Type) where
  rest : Text
  passed : Nat
  captured : List (ν × Span)

/-- The start of a text. -/
def Place.start (text : Text) : Place ν := ⟨text, 0, []⟩

/-- The part captured last under a name. -/
def Place.part? [BEq ν] (place : Place ν) (name : ν) : Option Text :=
  (place.captured.lookup name).map Span.chars

/-- A pattern that may be left out. -/
def optional (body : Pattern ν) : Pattern ν :=
  either body empty

/-- One repetition or more. -/
def many1 (body : Pattern ν) : Pattern ν :=
  both body (many body)

/-- One given character. -/
def char (c : Char) : Pattern ν :=
  one (· == c)

/-- The places after the characters of a run, the farthest first, in front of the
places already found.  A bound says how many characters the run may still take. -/
def placesAfter (cls : Char → Bool) (captured : List (ν × Span)) :
    (bound : Option Nat) → (rest : Text) → (passed : Nat) → List (Place ν) → List (Place ν)
  | _, [], _, found => found
  | bound, c :: rest, passed, found =>
    if cls c ∧ bound ≠ some 0 then
      let after := ⟨rest, passed + 1, captured⟩
      placesAfter cls captured (bound.map (· - 1)) rest (passed + 1) (after :: found)
    else found

/-- The places that up to `limit` repetitions of a step lead to, more repetitions
before fewer, in front of the places already found. -/
def repetitions (step : Place ν → List (Place ν)) :
    (limit : Nat) → Place ν → List (Place ν) → List (Place ν)
  | 0, place, found => place :: found
  | limit + 1, place, found => (step place).foldr (repetitions step limit) (place :: found)

/-- The places that a pattern leads to, in order of preference; nothing is repeated more
than `limit` times. -/
def placesFrom (limit : Nat) : Pattern ν → Place ν → List (Place ν)
  | empty, place => [place]
  | atStart, place => if place.passed = 0 then [place] else []
  | atEnd, place => if place.rest.isEmpty then [place] else []
  | one cls, place =>
    match place.rest with
    | c :: rest => if cls c then [⟨rest, place.passed + 1, place.captured⟩] else []
    | [] => []
  | run least most cls, place =>
    let found := placesAfter cls place.captured most place.rest place.passed [place]
    found.filter fun after => place.passed + least ≤ after.passed
  | both first second, place => (placesFrom limit first place).flatMap (placesFrom limit second)
  | either first second, place => placesFrom limit first place ++ placesFrom limit second place
  | many body, place => repetitions (placesFrom limit body) limit place []
  | capture name body, place =>
    (placesFrom limit body place).map fun after =>
      let span := ⟨place.rest, after.passed - place.passed⟩
      { after with captured := (name, span) :: after.captured }

/-- The preferred match of a pattern at the start of a text. -/
def match? (pattern : Pattern ν) (text : Text) : Option (Place ν) :=
  (pattern.placesFrom text.length (.start text)).head?

end Pattern
end OutboundHttp
