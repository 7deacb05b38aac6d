import OutboundHttp.Text.Basic

/-!
# Blank text

A text is blank when it holds nothing but white space, the empty text included.  White
space is the Unicode property `White_Space`: twenty-five characters, among them the
no-break space and the ideographic space, but not the zero-width space or the byte
order mark.
-/
namespace OutboundHttp
namespace Text

/-- The character has the property `White_Space`. -/
def isSpace (c : Char) : Bool :=
  let n := c.toNat
  (0x9 ≤ n && n ≤ 0xD) || n == 0x20 || n == 0x85 || n == 0xA0 || n == 0x1680 ||
    (0x2000 ≤ n && n ≤ 0x200A) || n == 0x2028 || n == 0x2029 || n == 0x202F ||
    n == 0x205F || n == 0x3000

/-- The text holds white space only. -/
def isBlank (text : Text) : Bool :=
  text.all isSpace

/-- The text without the white space around it. -/
def strip (text : Text) : Text :=
  trim isSpace text

@[simp] theorem isBlank_nil : isBlank [] = true := rfl

theorem isBlank_eq_false_of_mem {c : Char} {text : Text} (h : c ∈ text) (hc : isSpace c = false) :
    isBlank text = false := by
  rw [isBlank, List.all_eq_false]
  exact ⟨c, h, by rw [hc]; decide⟩

theorem ne_nil_of_isBlank_eq_false {text : Text} (h : isBlank text = false) : text ≠ [] := by
  rintro rfl
  cases h

end Text
end OutboundHttp
