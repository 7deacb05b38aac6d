import OutboundHttp.Domain.FoldingTable
import OutboundHttp.Text.Composed

/-!
# Folded names

Names that people take for the same are the same name: letters lose their case, wide and
ornamental forms their shape, ligatures are written out, and characters that nobody sees
are dropped.  The result is in composed form.
-/
namespace OutboundHttp
namespace Domain

/-- What a row of characters that follow one another says about a code point. -/
def rowAt? {α : Type} (rows : List (Nat × List α)) (n : Nat) : Option α :=
  rows.findSome? fun (first, row) => if n < first then none else row[n - first]?

/-- The code point that a letter of a run is folded to. -/
def runAt? (n : Nat) : Option Nat :=
  foldedRuns.findSome? fun (first, last, step, folded) =>
    if first ≤ n ∧ n ≤ last ∧ (n - first) % step = 0 then some (folded + (n - first)) else none

/-- The rows of characters that are folded to one each. -/
def foldedSingly : List (Nat × List Nat) :=
  foldedLetters ++ foldedSigns ++ foldedIdeographs ++ foldedShapes

/-- The code points that a code point is folded to, if it does not stay as it is. -/
def foldedTo? (n : Nat) : Option (List Nat) :=
  (runAt? n).map ([·]) <|> (rowAt? foldedSingly n).map ([·]) <|> rowAt? foldedAtLength n

/-- The folded form of a character, if it may stand in a name; that of one that does not
count is empty. -/
def foldChar? (c : Char) : Option Text :=
  if c.toNat < 0x80 then some [c.toLower]
  else if Text.inRanges unfitRanges c then none
  else if Text.inRanges ignoredRanges c then some []
  else
    match foldedTo? c.toNat with
    | some folded => some (folded.map Char.ofNat)
    | none => some [c]

/-- The folded form of a text, if all its characters may stand in a name. -/
def fold? (text : Text) : Option Text :=
  (text.mapM foldChar?).map fun folded => Text.composed folded.flatten

end Domain
end OutboundHttp
