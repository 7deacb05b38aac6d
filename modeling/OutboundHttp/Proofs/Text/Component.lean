import OutboundHttp.Proofs.Text.Digits
import OutboundHttp.Proofs.Text.Percent
import OutboundHttp.Proofs.Text.WellFormed

/-!
# Written components

A component is written with the unreserved characters and with triples of a percent sign and two
upper-case digits for all other octets (`IsComponent`).  Such a text tells its octets and is told by
them (`isComponent_iff`).  So every text has one written form, from which it is read, and a text of
this form is the written form of what is read from it exactly if its octets are UTF-8
(`escape_unescape_iff`).
-/
namespace OutboundHttp
namespace Percent

/-- A letter or digit of ASCII, or one of four marks. -/
def IsUnreservedChar (c : Char) : Prop :=
  c.isAlphanum = true ∨ c ∈ ['-', '_', '.', '~']

instance (c : Char) : Decidable (IsUnreservedChar c) :=
  inferInstanceAs (Decidable (_ ∨ _))

/-- The character is the upper-case hexadecimal digit of a number. -/
def IsUpperHexDigit (c : Char) (n : Nat) : Prop :=
  ('0' ≤ c ∧ c ≤ '9' ∧ c.toNat = '0'.toNat + n) ∨ ('A' ≤ c ∧ c ≤ 'F' ∧ c.toNat + 10 = 'A'.toNat + n)

instance (c : Char) (n : Nat) : Decidable (IsUpperHexDigit c n) :=
  inferInstanceAs (Decidable (_ ∨ _))

/-- A text is a written component that stands for some octets: an unreserved character stands for
itself, a triple for an octet that is no unreserved character. -/
inductive IsComponent : Text → Bytes → Prop
  | nil : IsComponent [] []
  | char {c : Char} {text : Text} {bytes : Bytes} (hc : IsUnreservedChar c)
      (hrest : IsComponent text bytes) : IsComponent (c :: text) (UInt8.ofNat c.toNat :: bytes)
  | triple {high low : Char} {m n : Nat} {text : Text} {bytes : Bytes}
      (hhigh : IsUpperHexDigit high m) (hlow : IsUpperHexDigit low n)
      (hreserved : ¬ IsUnreservedChar (Char.ofNat (m * 16 + n))) (hrest : IsComponent text bytes) :
      IsComponent ('%' :: high :: low :: text) (UInt8.ofNat (m * 16 + n) :: bytes)

/-! ## One octet -/

theorem isUnreserved_iff {b : UInt8} :
    isUnreserved b = true ↔ IsUnreservedChar (Char.ofNat b.toNat) := by
  simp [isUnreserved, IsUnreservedChar, or_assoc]

theorem isUpperHexDigit_iff {c : Char} {n : Nat} :
    IsUpperHexDigit c n ↔ n < 16 ∧ c = Text.upperHexDigit n := by
  constructor
  · rintro (⟨-, hmost, hc⟩ | ⟨hleast, hmost, hc⟩)
    · have hn : 48 + n ≤ 57 := hc ▸ UInt32.le_iff_toNat_le.mp hmost
      refine ⟨by omega, ?_⟩
      rw [Text.upperHexDigit, if_pos (by omega), ← Char.ofNat_toNat c, hc]
      rfl
    · have hlow : 65 ≤ c.toNat := UInt32.le_iff_toNat_le.mp hleast
      have hhigh : c.toNat ≤ 70 := UInt32.le_iff_toNat_le.mp hmost
      have hnumber : c.toNat + 10 = 65 + n := hc
      refine ⟨by omega, ?_⟩
      rw [Text.upperHexDigit, if_neg (by omega), ← Char.ofNat_toNat c]
      exact congrArg Char.ofNat (by omega)
  · rintro ⟨hn, rfl⟩
    have every : ∀ m ∈ List.range 16, IsUpperHexDigit (Text.upperHexDigit m) m := by decide
    exact every n (List.mem_range.mpr hn)

theorem IsUnreservedChar.ascii {c : Char} (h : IsUnreservedChar c) : c.toNat < 0x80 := by
  rcases h with halphanum | hmark
  · rcases Bool.or_eq_true_iff.mp halphanum with halpha | hdigit
    · have hbounds := Text.toNat_of_isAlpha halpha
      omega
    · have hbounds := Text.toNat_of_isDigit hdigit
      omega
  · have every : ∀ d ∈ ['-', '_', '.', '~'], d.toNat < 0x80 := by simp
    exact every c hmark

/-- An unreserved character is the written form of its own octet. -/
theorem escapeByte_of_isUnreservedChar {c : Char} (h : IsUnreservedChar c) :
    escapeByte (UInt8.ofNat c.toNat) = [c] := by
  have hoctet : (UInt8.ofNat c.toNat).toNat = c.toNat :=
    UInt8.toNat_ofNat_of_lt (Nat.lt_trans h.ascii (by decide))
  have hunreserved : isUnreserved (UInt8.ofNat c.toNat) = true := by
    rwa [isUnreserved_iff, hoctet, Char.ofNat_toNat]
  rw [escapeByte, if_pos hunreserved, hoctet, Char.ofNat_toNat]

theorem escapeByte_of_not_isUnreservedChar {k : Nat} (hk : k < 256)
    (h : ¬ IsUnreservedChar (Char.ofNat k)) :
    escapeByte (UInt8.ofNat k) =
      ['%', Text.upperHexDigit (k / 16), Text.upperHexDigit (k % 16)] := by
  have hoctet : (UInt8.ofNat k).toNat = k := UInt8.toNat_ofNat_of_lt hk
  have hnot : ¬ isUnreserved (UInt8.ofNat k) = true := by rwa [isUnreserved_iff, hoctet]
  rw [escapeByte, if_neg hnot, triple, hoctet]

/-! ## Components -/

theorem isComponent_escapeByte_append (b : UInt8) {text : Text} {bytes : Bytes}
    (h : IsComponent text bytes) : IsComponent (escapeByte b ++ text) (b :: bytes) := by
  have hb := b.toNat_lt
  by_cases hchar : IsUnreservedChar (Char.ofNat b.toNat)
  · have hvalue : (Char.ofNat b.toNat).toNat = b.toNat := Utf8.toNat_ofNat (Or.inl (by omega))
    have hcomponent := IsComponent.char hchar h
    rw [hvalue, UInt8.ofNat_toNat] at hcomponent
    rwa [escapeByte, if_pos (isUnreserved_iff.mpr hchar)]
  · have hnumber : b.toNat / 16 * 16 + b.toNat % 16 = b.toNat := by omega
    have hhigh := isUpperHexDigit_iff.mpr ⟨show b.toNat / 16 < 16 by omega, rfl⟩
    have hlow := isUpperHexDigit_iff.mpr ⟨show b.toNat % 16 < 16 by omega, rfl⟩
    have hcomponent := IsComponent.triple hhigh hlow (hnumber.symm ▸ hchar) h
    rw [hnumber, UInt8.ofNat_toNat] at hcomponent
    rwa [escapeByte, if_neg fun hunreserved => hchar (isUnreserved_iff.mp hunreserved)]

/-- **A component is told by its octets.** -/
theorem isComponent_iff {text : Text} {bytes : Bytes} :
    IsComponent text bytes ↔ text = bytes.flatMap escapeByte := by
  constructor
  · intro h
    induction h with
    | nil => rfl
    | char hc _ ih => rw [List.flatMap_cons, escapeByte_of_isUnreservedChar hc, ih]; rfl
    | @triple high low m n text bytes hhigh hlow hreserved _ ih =>
      obtain ⟨hm, rfl⟩ := isUpperHexDigit_iff.mp hhigh
      obtain ⟨hn, rfl⟩ := isUpperHexDigit_iff.mp hlow
      have hfirst : (m * 16 + n) / 16 = m := by omega
      have hsecond : (m * 16 + n) % 16 = n := by omega
      rw [List.flatMap_cons, escapeByte_of_not_isUnreservedChar (by omega) hreserved, hfirst,
        hsecond, ← ih]
      rfl
  · rintro rfl
    induction bytes with
    | nil => exact .nil
    | cons b bytes ih => exact isComponent_escapeByte_append b ih

theorem unescape_of_isComponent {text : Text} {bytes : Bytes} (h : IsComponent text bytes) :
    unescape text = Utf8.decodeLossy bytes := by
  rw [isComponent_iff.mp h, unescape, bytesOf_flatMap_escapeByte]

/-- **Texts and written components.**  A text is written as a component that stands for its UTF-8
octets, and is read from this component.  What is read from a component is written as this
component again exactly if its octets are UTF-8. -/
theorem escape_unescape_iff :
    (∀ text, IsComponent (escape text) (Utf8.encode text) ∧ unescape (escape text) = text) ∧
    ∀ {component : Text} {bytes : Bytes}, IsComponent component bytes →
      (escape (unescape component) = component ↔ Utf8.IsWellFormed bytes) := by
  refine ⟨fun text => ⟨isComponent_iff.mpr rfl, unescape_escape text⟩, ?_⟩
  intro component bytes h
  rw [unescape_of_isComponent h, isComponent_iff.mp h, ← Utf8.encode_decodeLossy_eq_iff, escape]
  constructor
  · intro heq
    have hbytes := congrArg bytesOf heq
    rwa [bytesOf_flatMap_escapeByte, bytesOf_flatMap_escapeByte] at hbytes
  · intro heq
    rw [heq]

/-- Octets of two characters, and two octets that a letter keeps from being one character. -/
theorem escape_unescape_iff_apart :
    (IsComponent "A%25~%C3%A9" [0x41, 0x25, 0x7E, 0xC3, 0xA9] ∧
      escape (unescape "A%25~%C3%A9") = ("A%25~%C3%A9" : Text)) ∧
    IsComponent "%C3a%A9" [0xC3, 0x61, 0xA9] ∧
      escape (unescape "%C3a%A9") ≠ ("%C3a%A9" : Text) := by
  have hwhole : IsComponent "A%25~%C3%A9" [0x41, 0x25, 0x7E, 0xC3, 0xA9] :=
    isComponent_iff.mpr (by decide)
  have hapart : IsComponent "%C3a%A9" [0xC3, 0x61, 0xA9] := isComponent_iff.mpr (by decide)
  refine ⟨⟨hwhole, ?_⟩, hapart, ?_⟩
  · exact (escape_unescape_iff.2 hwhole).mpr (by decide)
  · exact fun heq => absurd ((escape_unescape_iff.2 hapart).mp heq) (by decide)

end Percent
end OutboundHttp
