import OutboundHttp.Proofs.Text.Utf8
import OutboundHttp.Request.Header

/-!
# Headers that can be sent

A header can be sent if its name is a token that is not too long, and its value holds no control
character but the tab (`IsSendable`).  Otherwise the first of the two that is wrong is its fault
(`fault?`).  A value that has come is plain text if it holds printable characters of ASCII and tabs
only (`plainText?_eq_some_iff`).
-/
namespace OutboundHttp
namespace Header

/-- The text holds nothing but the characters of names, and at least one of them. -/
def IsToken (name : Text) : Prop :=
  name ≠ [] ∧ ∀ c ∈ name, isNameChar c

instance (name : Text) : Decidable (IsToken name) :=
  decidable_of_iff (name ≠ [] ∧ name.all isNameChar) (and_congr_right fun _ => List.all_eq_true)

/-- Every octet of the text may stand in a header value. -/
def IsValue (value : Text) : Prop :=
  ∀ byte ∈ Utf8.encode value, isValueByte byte

instance (value : Text) : Decidable (IsValue value) :=
  decidable_of_iff ((Utf8.encode value).all isValueByte) List.all_eq_true

theorem IsValue.append {text text' : Text} (h : IsValue text) (h' : IsValue text') :
    IsValue (text ++ text') := by
  rw [IsValue, Utf8.encode_append]
  exact List.forall_mem_append.mpr ⟨h, h'⟩

/-- A text without control characters is a header value. -/
theorem isValue_of_visible {text : Text} (h : ∀ c ∈ text, 0x20 ≤ c.toNat ∧ c.toNat ≠ 0x7F) :
    IsValue text := by
  intro byte hbyte
  obtain ⟨c, hc, hmem⟩ := List.mem_flatMap.mp hbyte
  have hvisible : 0x20 ≤ byte.toNat ∧ byte.toNat ≠ 0x7F := by
    -- An octet that is not of ASCII is above both bounds.
    by_cases hlow : byte.toNat < 0x80
    · rw [← Utf8.toNat_eq_of_mem_utf8EncodeChar hmem hlow]
      exact h c hc
    · omega
  have hleast : 0x20 ≤ byte := UInt8.le_iff_toNat_le.mpr hvisible.1
  have hne : byte ≠ 0x7F := fun heq => hvisible.2 (heq ▸ rfl)
  simp [isValueByte, hleast, hne]

/-- The header can be sent. -/
def IsSendable (header : Text × Text) : Prop :=
  (IsToken header.1 ∧ header.1.length ≤ longestName) ∧ IsValue header.2

instance (header : Text × Text) : Decidable (IsSendable header) :=
  inferInstanceAs (Decidable ((_ ∧ _) ∧ _))

theorem name?_eq (name : Text) :
    name? name =
      if IsToken name ∧ name.length ≤ longestName then .ok (Text.lowerAscii name)
      else .error .headerName := by
  have hiff : (name.isEmpty || decide (longestName < name.length) || !name.all isNameChar) = false ↔
      IsToken name ∧ name.length ≤ longestName := by
    simp only [IsToken, Bool.or_eq_false_iff, List.isEmpty_eq_false_iff, decide_eq_false_iff_not,
      Nat.not_lt, Bool.not_eq_false', List.all_eq_true]
    exact and_right_comm
  rw [name?]
  by_cases h : IsToken name ∧ name.length ≤ longestName
  · rw [hiff.mpr h, if_neg Bool.false_ne_true, if_pos h]
  · rw [if_pos (eq_true_of_ne_false fun hfalse => h (hiff.mp hfalse)), if_neg h]

theorem value?_eq (value : Text) :
    value? value = if IsValue value then .ok (Utf8.encode value) else .error .headerValue := by
  rw [value?]
  by_cases h : IsValue value
  · rw [if_pos h]
    exact if_pos (List.all_eq_true.mpr h)
  · rw [if_neg h]
    exact if_neg fun hall => h (List.all_eq_true.mp hall)

/-- What is wrong with a header. -/
def fault? (header : Text × Text) : Option HttpError :=
  if ¬ (IsToken header.1 ∧ header.1.length ≤ longestName) then some .headerName
  else if ¬ IsValue header.2 then some .headerValue
  else none

/-- A header as it is sent. -/
def sent (header : Text × Text) : Text × Bytes :=
  (Text.lowerAscii header.1, Utf8.encode header.2)

theorem fault?_eq_none_iff {header : Text × Text} : fault? header = none ↔ IsSendable header := by
  unfold fault? IsSendable
  split
  · simp [*]
  · split <;> simp_all

/-! ## Values that have come -/

/-- The character is a printable one of ASCII, or the tab. -/
def IsPlainChar (c : Char) : Prop :=
  c = '\t' ∨ ' ' ≤ c ∧ c ≤ '~'

theorem isPlainChar_iff {c : Char} :
    IsPlainChar c ↔ c.toNat = 9 ∨ 32 ≤ c.toNat ∧ c.toNat ≤ 126 :=
  or_congr Char.toNat_inj.symm
    (and_congr UInt32.le_iff_toNat_le UInt32.le_iff_toNat_le)

theorem isPlainByte_iff {b : UInt8} :
    isPlainByte b = true ↔ b.toNat = 9 ∨ 32 ≤ b.toNat ∧ b.toNat ≤ 126 := by
  simp only [isPlainByte, Bool.or_eq_true, beq_iff_eq, Bool.and_eq_true, decide_eq_true_eq,
    UInt8.le_iff_toNat_le, UInt8.lt_iff_toNat_lt, ← UInt8.toNat_inj]
  exact or_congr_right (and_congr_right fun _ => Nat.lt_succ_iff)

/-- Octets of plain text are those of the characters with the same numbers. -/
theorem encode_map_of_isPlainByte {value : Bytes} (h : ∀ b ∈ value, isPlainByte b = true) :
    Utf8.encode (value.map fun b => Char.ofNat b.toNat) = value := by
  refine Utf8.encode_map_ofNat fun b hb => ?_
  have hbounds := isPlainByte_iff.mp (h b hb)
  omega

/-- A plain character is written as one octet, which is plain too. -/
theorem isPlainByte_of_mem_encode {text : Text} (h : ∀ c ∈ text, IsPlainChar c) {b : UInt8}
    (hb : b ∈ Utf8.encode text) : isPlainByte b = true := by
  obtain ⟨c, hc, hmem⟩ := List.mem_flatMap.mp hb
  have hbounds := isPlainChar_iff.mp (h c hc)
  have hoctet : String.utf8EncodeChar c = [UInt8.ofNat c.toNat] := by
    rw [← Utf8.utf8EncodeChar_ofNat c.toNat (by omega), Char.ofNat_toNat]
  rw [hoctet, List.mem_singleton] at hmem
  have hvalue : b.toNat = c.toNat := by
    rw [hmem]
    exact UInt8.toNat_ofNat_of_lt' (show c.toNat < 256 by omega)
  rw [isPlainByte_iff, hvalue]
  exact hbounds

/-- **Plain text** is a value of printable characters of ASCII and of tabs. -/
theorem plainText?_eq_some_iff {value : Bytes} {text : Text} :
    plainText? value = some text ↔ value = Utf8.encode text ∧ ∀ c ∈ text, IsPlainChar c := by
  rw [plainText?]
  constructor
  · intro h
    split at h
    · rename_i hplain
      cases h
      have hplain := List.all_eq_true.mp hplain
      refine ⟨(encode_map_of_isPlainByte hplain).symm, fun c hc => ?_⟩
      obtain ⟨b, hb, rfl⟩ := List.mem_map.mp hc
      have hbounds := isPlainByte_iff.mp (hplain b hb)
      rw [isPlainChar_iff, Utf8.toNat_ofNat (Or.inl (by omega))]
      exact hbounds
    · cases h
  · rintro ⟨rfl, htext⟩
    have hplain : ∀ b ∈ Utf8.encode text, isPlainByte b = true := fun b hb =>
      isPlainByte_of_mem_encode htext hb
    rw [if_pos (List.all_eq_true.mpr hplain), ← Utf8.decodeLossy_encode (List.map _ _),
      encode_map_of_isPlainByte hplain, Utf8.decodeLossy_encode]

end Header
end OutboundHttp
