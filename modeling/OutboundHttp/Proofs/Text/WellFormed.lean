import OutboundHttp.Proofs.Text.Utf8

/-!
# Bytes that are UTF-8

A byte string is UTF-8 if it falls apart into the sequences of characters (`IsWellFormed`): each
in the shortest form, and none for a surrogate or for a number that is too large.  These are the
byte strings that texts are written as (`isWellFormed_iff`).  The reader never fails, but only of
such a string does it give the text that is written as this string again
(`encode_decodeLossy_eq_iff`).
-/
namespace OutboundHttp
namespace Utf8

/-- The octet can stand behind the first of a character. -/
def IsTrail (b : UInt8) : Prop :=
  0x80 ≤ b.toNat ∧ b.toNat ≤ 0xBF

/-- The octets of one character. -/
inductive IsSequence : Bytes → Prop
  | one {a : UInt8} (ha : a.toNat ≤ 0x7F) : IsSequence [a]
  /-- The octets `0xC0` and `0xC1` begin numbers for which one octet is enough. -/
  | two {a b : UInt8} (ha : 0xC2 ≤ a.toNat ∧ a.toNat ≤ 0xDF) (hb : IsTrail b) : IsSequence [a, b]
  /-- Two octets must not be enough, and the number must not be that of a surrogate. -/
  | three {a b c : UInt8} (ha : 0xE0 ≤ a.toNat ∧ a.toNat ≤ 0xEF) (hb : IsTrail b) (hc : IsTrail c)
      (hshort : a.toNat = 0xE0 → 0xA0 ≤ b.toNat) (hsurrogate : a.toNat = 0xED → b.toNat ≤ 0x9F) :
      IsSequence [a, b, c]
  /-- Three octets must not be enough, and the number must be below `0x110000`. -/
  | four {a b c d : UInt8} (ha : 0xF0 ≤ a.toNat ∧ a.toNat ≤ 0xF4) (hb : IsTrail b)
      (hc : IsTrail c) (hd : IsTrail d) (hshort : a.toNat = 0xF0 → 0x90 ≤ b.toNat)
      (hlarge : a.toNat = 0xF4 → b.toNat ≤ 0x8F) : IsSequence [a, b, c, d]

/-- The sequences of characters, one behind the other. -/
inductive IsWellFormed : Bytes → Prop
  | nil : IsWellFormed []
  | append {sequence rest : Bytes} (hsequence : IsSequence sequence) (hrest : IsWellFormed rest) :
      IsWellFormed (sequence ++ rest)

/-! ## One character -/

theorem isTrail_trail (n : Nat) : IsTrail (trail n) := by
  rw [IsTrail, toNat_trail]
  omega

theorem trail_eq {b : UInt8} (hb : IsTrail b) {n : Nat} (hn : n % 0x40 = b.toNat - 0x80) :
    trail n = b := by
  obtain ⟨hlow, -⟩ := hb
  refine UInt8.toNat_inj.mp ?_
  rw [toNat_trail]
  omega

/-- A character is written as one of the sequences. -/
theorem isSequence_utf8EncodeChar (c : Char) : IsSequence (String.utf8EncodeChar c) := by
  have hvalid : c.toNat < 0xD800 ∨ 0xDFFF < c.toNat ∧ c.toNat < 0x110000 := c.valid
  have hoctet {m : Nat} (hm : m < 0x100) : (UInt8.ofNat m).toNat = m := by
    rw [UInt8.toNat_ofNat']
    omega
  rw [utf8EncodeChar_eq]
  generalize c.toNat = n at *
  split
  · refine .one ?_
    rw [hoctet (by omega)]
    assumption
  split
  · refine .two ?_ (isTrail_trail n)
    rw [hoctet (by omega)]
    omega
  split
  · have hfirst : (UInt8.ofNat (n / 4096 % 0x10 + 0xE0)).toNat = n / 4096 + 0xE0 := by
      rw [hoctet (by omega)]
      omega
    refine .three ?_ (isTrail_trail _) (isTrail_trail n) ?_ ?_ <;> rw [hfirst]
    · omega
    · rw [toNat_trail]
      omega
    · rw [toNat_trail]
      omega
  · have hfirst : (UInt8.ofNat (n / 262144 % 0x08 + 0xF0)).toNat = n / 262144 + 0xF0 := by
      rw [hoctet (by omega)]
      omega
    refine .four ?_ (isTrail_trail _) (isTrail_trail _) (isTrail_trail n) ?_ ?_ <;> rw [hfirst]
    · omega
    · rw [toNat_trail]
      omega
    · rw [toNat_trail]
      omega

/-- Each of the sequences is what some character is written as. -/
theorem exists_utf8EncodeChar_eq {sequence : Bytes} (h : IsSequence sequence) :
    ∃ c, String.utf8EncodeChar c = sequence := by
  -- The number that the sequence holds is that of a character.
  have hchar {n : Nat} (hn : n < 0xD800 ∨ 0xDFFF < n ∧ n < 0x110000) :
      (Char.ofNat n).toNat = n := toNat_ofNat hn
  have hoctet (a : UInt8) {m : Nat} (hm : m = a.toNat) : UInt8.ofNat m = a := by
    rw [hm, UInt8.ofNat_toNat]
  cases h with
  | @one a ha =>
    refine ⟨Char.ofNat a.toNat, ?_⟩
    rw [utf8EncodeChar_ofNat a.toNat (by omega), hoctet a rfl]
  | @two a b ha hb =>
    have ⟨hlow, hhigh⟩ := hb
    refine ⟨Char.ofNat ((a.toNat - 0xC0) * 64 + (b.toNat - 0x80)), ?_⟩
    rw [utf8EncodeChar_eq, hchar (by omega), if_neg (by omega), if_pos (by omega),
      hoctet a (by omega), trail_eq hb (by omega)]
  | @three a b c ha hb hc hshort hsurrogate =>
    have ⟨hlow, hhigh⟩ := hb
    have ⟨hlow', hhigh'⟩ := hc
    refine ⟨Char.ofNat (((a.toNat - 0xE0) * 64 + (b.toNat - 0x80)) * 64 + (c.toNat - 0x80)), ?_⟩
    rw [utf8EncodeChar_eq, hchar (by omega), if_neg (by omega), if_neg (by omega),
      if_pos (by omega), hoctet a (by omega), trail_eq hb (by omega), trail_eq hc (by omega)]
  | @four a b c d ha hb hc hd hshort hlarge =>
    have ⟨hlow, hhigh⟩ := hb
    have ⟨hlow', hhigh'⟩ := hc
    have ⟨hlow'', hhigh''⟩ := hd
    refine ⟨Char.ofNat ((((a.toNat - 0xF0) * 64 + (b.toNat - 0x80)) * 64 + (c.toNat - 0x80)) * 64 +
      (d.toNat - 0x80)), ?_⟩
    rw [utf8EncodeChar_eq, hchar (by omega), if_neg (by omega), if_neg (by omega),
      if_neg (by omega), hoctet a (by omega), trail_eq hb (by omega), trail_eq hc (by omega),
      trail_eq hd (by omega)]

/-! ## Byte strings -/

/-- **The byte strings that are UTF-8 are those that texts are written as.** -/
theorem isWellFormed_iff {bytes : Bytes} : IsWellFormed bytes ↔ ∃ text, encode text = bytes := by
  constructor
  · intro h
    induction h with
    | nil => exact ⟨[], rfl⟩
    | append hsequence _ ih =>
      obtain ⟨c, rfl⟩ := exists_utf8EncodeChar_eq hsequence
      obtain ⟨text, rfl⟩ := ih
      exact ⟨c :: text, rfl⟩
  · rintro ⟨text, rfl⟩
    induction text with
    | nil => exact .nil
    | cons c text ih => exact .append (isSequence_utf8EncodeChar c) ih

/-- **Bytes are those of the text that is read from them exactly if they are UTF-8.** -/
theorem encode_decodeLossy_eq_iff {bytes : Bytes} :
    encode (decodeLossy bytes) = bytes ↔ IsWellFormed bytes := by
  rw [isWellFormed_iff, encode_decodeLossy_iff]

instance (bytes : Bytes) : Decidable (IsWellFormed bytes) :=
  decidable_of_iff _ encode_decodeLossy_eq_iff

/-- A zero in two octets, a surrogate, and a character that breaks off. -/
example : ¬ IsWellFormed [0xC0, 0x80] ∧ ¬ IsWellFormed [0xED, 0xA0, 0x80] ∧
    ¬ IsWellFormed [0x61, 0xE2, 0x82] := by decide

end Utf8
end OutboundHttp
