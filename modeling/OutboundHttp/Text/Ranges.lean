/-!
# Ranges of characters

A class of characters is a list of ranges of code points, in order, each with its first
and its last.  Looking a character up stops at the first range that lies behind it.
-/
namespace OutboundHttp
namespace Text

/-- Ranges of code points, in order, each with its first and its last. -/
abbrev Ranges := List (Nat × Nat)

/-- The character lies in one of the ranges. -/
def inRanges (ranges : Ranges) (c : Char) : Bool :=
  (ranges.takeWhile fun (first, _) => first ≤ c.toNat).any fun (_, last) => c.toNat ≤ last

end Text
end OutboundHttp
