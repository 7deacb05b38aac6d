/-!
# Texts and byte strings

Everything this library reads or writes is a text or a byte string.  Both are plain
lists, so that each rule about them is a rule about lists: cutting at a separator,
looking for a piece, putting one piece in place of another.
-/
namespace OutboundHttp

/-- A text is the list of its characters. -/
abbrev Text := List Char

/-- A byte string. -/
abbrev Bytes := List UInt8

instance : Coe String Text := ⟨String.toList⟩

namespace Text

/-- The pieces of a text between the occurrences of a separator; there is always
at least one. -/
def splitOn (sep : Char) : Text → List Text
  | [] => [[]]
  | c :: rest =>
    if c = sep then [] :: splitOn sep rest
    else
      match splitOn sep rest with
      | [] => [[c]]
      | piece :: pieces => (c :: piece) :: pieces

/-- What stands before and after the first occurrence of a separator. -/
def cutAt? (sep : Char) : Text → Option (Text × Text)
  | [] => none
  | c :: rest =>
    if c = sep then some ([], rest)
    else (cutAt? sep rest).map fun (before, after) => (c :: before, after)

/-- What stands before the last occurrence of a separator. -/
def beforeLast? (sep : Char) : Text → Option Text
  | [] => none
  | c :: rest =>
    match beforeLast? sep rest with
    | some before => some (c :: before)
    | none => if c = sep then some [] else none

/-- The texts in order, with a separator between each two. -/
def join (sep : Text) : List Text → Text
  | [] => []
  | [piece] => piece
  | piece :: next :: pieces => piece ++ sep ++ join sep (next :: pieces)

/-- A piece occurs in a text. -/
def occursIn (piece : Text) : Text → Bool
  | [] => piece.isEmpty
  | c :: rest => piece.isPrefixOf (c :: rest) || occursIn piece rest

/-- What follows the first occurrence of a piece. -/
def after? (piece : Text) : Text → Option Text
  | [] => if piece.isEmpty then some [] else none
  | c :: rest =>
    if piece.isPrefixOf (c :: rest) then some ((c :: rest).drop piece.length)
    else after? piece rest

/-- Reading from left to right, every occurrence of `piece` that does not overlap
one already taken gives way to `value`; `skip` characters of the occurrence last
taken are still to be passed over. -/
def replaceFrom (piece value : Text) : Nat → Text → Text
  | _, [] => []
  | skip + 1, _ :: rest => replaceFrom piece value skip rest
  | 0, c :: rest =>
    if piece.isPrefixOf (c :: rest) then
      value ++ replaceFrom piece value (piece.length - 1) rest
    else c :: replaceFrom piece value 0 rest

/-- The text with `value` in place of every occurrence of a non-empty `piece`. -/
def replaceAll (piece value text : Text) : Text :=
  replaceFrom piece value 0 text

/-- The text without the characters of a class at its start. -/
def trimStart (cls : Char → Bool) (text : Text) : Text :=
  text.dropWhile cls

/-- The text without the characters of a class at its end. -/
def trimEnd (cls : Char → Bool) (text : Text) : Text :=
  (text.reverse.dropWhile cls).reverse

/-- The text without the characters of a class at both ends. -/
def trim (cls : Char → Bool) (text : Text) : Text :=
  trimEnd cls (trimStart cls text)

/-- The text with the letters `A` to `Z` in lower case and all else as it is. -/
def lowerAscii (text : Text) : Text :=
  text.map Char.toLower

/-- The two texts differ at most in the case of the letters `A` to `Z`. -/
def sameIgnoringCase (a b : Text) : Bool :=
  lowerAscii a == lowerAscii b

end Text

end OutboundHttp
