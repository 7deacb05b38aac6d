import OutboundHttp.Proofs.Text.Utf8
import OutboundHttp.Text.Percent

/-!
# Percent coding read and written

A component is read as the text that it was written for, whatever its characters are
(`unescape_escape`).  What is written holds none of the marks that a uri gives a meaning
to, for it is made of few characters (`isComponentChar_of_mem_escape`).
-/
namespace OutboundHttp
namespace Percent

/-- A character of a written component. -/
def isComponentChar (c : Char) : Bool :=
  c.isAlphanum || c == '-' || c == '_' || c == '.' || c == '~' || c == '%'

/-! ## What is written -/

theorem isAlphanum_upperHexDigit {n : Nat} (h : n < 16) :
    (Text.upperHexDigit n).isAlphanum = true := by
  have every : ∀ m ∈ List.range 16, (Text.upperHexDigit m).isAlphanum = true := by decide
  exact every n (List.mem_range.mpr h)

theorem isComponentChar_of_mem_escapeByte {c : Char} {b : UInt8} (h : c ∈ escapeByte b) :
    isComponentChar c = true := by
  have hb := b.toNat_lt
  unfold escapeByte at h
  split at h
  · rename_i hunreserved
    rw [List.mem_singleton] at h
    rw [isComponentChar, Bool.or_eq_true, h]
    exact Or.inl hunreserved
  · simp only [triple, List.mem_cons, List.not_mem_nil, or_false] at h
    rcases h with rfl | rfl | rfl
    · decide
    · simp [isComponentChar, isAlphanum_upperHexDigit (show b.toNat / 16 < 16 by omega)]
    · simp [isComponentChar, isAlphanum_upperHexDigit (show b.toNat % 16 < 16 by omega)]

/-- **A written component** holds letters, digits and a few marks only. -/
theorem isComponentChar_of_mem_escape {c : Char} {text : Text} (h : c ∈ escape text) :
    isComponentChar c = true := by
  obtain ⟨b, -, hc⟩ := List.mem_flatMap.mp h
  exact isComponentChar_of_mem_escapeByte hc

theorem not_mem_escape {c : Char} (hc : isComponentChar c = false) (text : Text) :
    c ∉ escape text := by
  intro h
  rw [isComponentChar_of_mem_escape h] at hc
  cases hc

/-! ## What is read -/

/-- Octets that stand for themselves are of ASCII, and the percent sign is none of them. -/
theorem ascii_of_isUnreserved {b : UInt8} (h : isUnreserved b = true) :
    b.toNat < 0x80 ∧ Char.ofNat b.toNat ≠ '%' := by
  have every : ∀ n < 256, isUnreserved (UInt8.ofNat n) = true →
      n < 0x80 ∧ Char.ofNat n ≠ '%' := by decide +kernel
  exact every b.toNat b.toNat_lt (by rw [UInt8.ofNat_toNat]; exact h)

theorem bytesOf_escapeByte_append (b : UInt8) (rest : Text) :
    bytesOf (escapeByte b ++ rest) = b :: bytesOf rest := by
  have hb := b.toNat_lt
  unfold escapeByte
  split
  · rename_i hunreserved
    obtain ⟨hascii, hpercent⟩ := ascii_of_isUnreserved hunreserved
    rw [List.singleton_append, bytesOf, Utf8.utf8EncodeChar_ofNat _ hascii, UInt8.ofNat_toNat]
    · rfl
    · exact fun _ _ _ heq => absurd heq hpercent
  · have hnumber : b.toNat / 16 * 16 + b.toNat % 16 = b.toNat := by omega
    simp only [triple, List.cons_append, List.nil_append, bytesOf,
      Text.hexValue?_upperHexDigit (show b.toNat / 16 < 16 by omega),
      Text.hexValue?_upperHexDigit (show b.toNat % 16 < 16 by omega), hnumber, UInt8.ofNat_toNat]

theorem bytesOf_flatMap_escapeByte (bytes : Bytes) : bytesOf (bytes.flatMap escapeByte) = bytes := by
  induction bytes with
  | nil => rfl
  | cons b bytes ih => rw [List.flatMap_cons, bytesOf_escapeByte_append, ih]

/-- **A component is read as it was written.** -/
theorem unescape_escape (text : Text) : unescape (escape text) = text := by
  rw [unescape, escape, bytesOf_flatMap_escapeByte, Utf8.decodeLossy_encode]

end Percent
end OutboundHttp
