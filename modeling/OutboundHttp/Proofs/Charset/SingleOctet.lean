import OutboundHttp.Charset.Codec
import OutboundHttp.Proofs.Text.Utf8

/-!
# Charsets of single octets

A charset of single octets has a table of the characters of its upper octets, with gaps where an
octet stands for no character.  A character that it does not have takes more than one octet, and
each octet is read as one character, so lengths tell what is lost (`length_flatMap_eq_iff`): a text
is read back from its bytes exactly if an octet stands for each of its characters
(`map_charOfByte_flatMap_iff`), and bytes are those of the text that is read from them exactly if
none of them is a gap (`flatMap_bytesOfChar_map_iff`), since no table holds a character twice.
-/
namespace OutboundHttp
namespace Charset

/-- The code points of the upper octets: as many as there are octets, and each of them
a character outside ASCII. -/
structure IsUpperHalf (table : List Nat) : Prop where
  length : table.length = 0x80
  upper : ∀ n ∈ table, 0x80 ≤ n
  valid : ∀ n ∈ table, Nat.isValidChar n

/-- The tables are upper halves. -/
theorem isUpperHalf (set : SingleOctet) : IsUpperHalf set.upper := by
  cases set <;> constructor <;> decide +kernel

/-- An octet of the charset stands for the character. -/
def Has (table : List Nat) (c : Char) : Prop :=
  c ≠ Utf8.replacement ∧ ∃ b, charOfByte table b = c

variable {table : List Nat} {c : Char}

/-! ## One character -/

/-- The octet of a character is read as the character. -/
theorem charOfByte_of_byteOfChar? (htable : IsUpperHalf table) {b : UInt8}
    (h : byteOfChar? table c = some b) : charOfByte table b = c := by
  unfold byteOfChar? at h
  split at h
  · rename_i hascii
    cases h
    have hbyte : (UInt8.ofNat c.toNat).toNat = c.toNat := by
      rw [UInt8.toNat_ofNat']
      omega
    have hlow : UInt8.ofNat c.toNat < 0x80 := by
      rw [UInt8.lt_iff_toNat_lt, hbyte]
      exact hascii
    rw [charOfByte, if_pos hlow, hbyte, Char.ofNat_toNat]
  · split at h
    · cases h
    · obtain ⟨i, hi, rfl⟩ := Option.map_eq_some_iff.mp h
      obtain ⟨hlt, hget, -⟩ := List.idxOf?_eq_some_iff.mp hi
      have hbyte : (UInt8.ofNat (0x80 + i)).toNat = 0x80 + i := by
        rw [UInt8.toNat_ofNat']
        have := htable.length
        omega
      have hhigh : ¬ UInt8.ofNat (0x80 + i) < 0x80 := by
        rw [UInt8.lt_iff_toNat_lt, hbyte]
        exact Nat.not_lt.mpr (Nat.le_add_right _ _)
      rw [charOfByte, if_neg hhigh, hbyte, Nat.add_sub_cancel_left, List.getElem?_eq_getElem hlt,
        hget, Option.getD_some, Char.ofNat_toNat]

theorem toNat_charOfByte_of_lt (table : List Nat) {b : UInt8} (hb : b.toNat < 0x80) :
    (charOfByte table b).toNat = b.toNat := by
  have hlow : b < 0x80 := UInt8.lt_iff_toNat_lt.mpr hb
  have hvalid : Nat.isValidChar b.toNat := Or.inl (by omega)
  rw [charOfByte, if_pos hlow, Utf8.toNat_ofNat hvalid]

theorem exists_toNat_charOfByte (htable : IsUpperHalf table) {b : UInt8} (hb : ¬ b.toNat < 0x80) :
    ∃ hlt : b.toNat - 0x80 < table.length,
      (charOfByte table b).toNat = table[b.toNat - 0x80] := by
  have hhigh : ¬ b < 0x80 := fun hlow => hb (UInt8.lt_iff_toNat_lt.mp hlow)
  have hlt : b.toNat - 0x80 < table.length := by
    have := b.toNat_lt
    rw [htable.length]
    omega
  refine ⟨hlt, ?_⟩
  rw [charOfByte, if_neg hhigh, List.getElem?_eq_getElem hlt, Option.getD_some,
    Utf8.toNat_ofNat (htable.valid _ (List.getElem_mem hlt))]

/-- No octet is written for the replacement character. -/
theorem byteOfChar?_replacement (table : List Nat) :
    byteOfChar? table Utf8.replacement = none := by
  have hupper : ¬ Utf8.replacement.toNat < 0x80 := by decide
  rw [byteOfChar?, if_neg hupper, if_pos rfl]

/-- A character that an octet stands for has an octet. -/
theorem isSome_byteOfChar?_charOfByte (htable : IsUpperHalf table) {b : UInt8}
    (hne : charOfByte table b ≠ Utf8.replacement) :
    (byteOfChar? table (charOfByte table b)).isSome = true := by
  by_cases hb : b.toNat < 0x80
  · rw [byteOfChar?, toNat_charOfByte_of_lt table hb, if_pos hb]
    rfl
  · obtain ⟨hlt, hnumber⟩ := exists_toNat_charOfByte htable hb
    have hmem : table[b.toNat - 0x80] ∈ table := List.getElem_mem hlt
    rw [byteOfChar?, hnumber, if_neg (Nat.not_lt.mpr (htable.upper _ hmem)), if_neg hne,
      Option.isSome_map, List.isSome_idxOf?]
    exact hmem

/-- The characters that have an octet are those that an octet stands for. -/
theorem isSome_byteOfChar?_iff (htable : IsUpperHalf table) :
    (byteOfChar? table c).isSome = true ↔ Has table c := by
  constructor
  · intro h
    obtain ⟨b, hb⟩ := Option.isSome_iff_exists.mp h
    refine ⟨?_, b, charOfByte_of_byteOfChar? htable hb⟩
    rintro rfl
    rw [byteOfChar?_replacement] at h
    cases h
  · rintro ⟨hne, b, rfl⟩
    exact isSome_byteOfChar?_charOfByte htable hne

instance (set : SingleOctet) (c : Char) : Decidable (Has set.upper c) :=
  decidable_of_iff _ (isSome_byteOfChar?_iff (isUpperHalf set))

/-- The numbers differ from each other and from those whose bits are set in `seen`. -/
def areNew : (seen : Nat) → List Nat → Bool
  | _, [] => true
  | seen, n :: rest => !seen.testBit n && areNew (seen ||| 1 <<< n) rest

theorem nodup_of_areNew {seen : Nat} {l : List Nat} (h : areNew seen l = true) :
    l.Nodup ∧ ∀ n ∈ l, seen.testBit n = false := by
  induction l generalizing seen with
  | nil => exact ⟨List.nodup_nil, List.forall_mem_nil _⟩
  | cons n rest ih =>
    simp only [areNew, Bool.and_eq_true, Bool.not_eq_true'] at h
    obtain ⟨hfirst, hothers⟩ := h
    obtain ⟨hnodup, hrest⟩ := ih hothers
    simp only [Nat.testBit_or, Bool.or_eq_false_iff] at hrest
    refine ⟨List.nodup_cons.mpr ⟨fun hmem => ?_, hnodup⟩,
      List.forall_mem_cons.mpr ⟨hfirst, fun m hm => (hrest m hm).1⟩⟩
    have hbit := (hrest n hmem).2
    simp at hbit

/-- No table holds a character twice. -/
theorem nodup_upper (set : SingleOctet) : (set.upper.filter (· ≠ 0xFFFD)).Nodup := by
  -- One pass over a table is cheaper than to compare each two of its numbers.
  refine (@nodup_of_areNew 0 _ ?_).1
  cases set <;> decide +kernel

/-- The octet of a character that an octet stands for is this one, if the table does not hold the
character twice. -/
theorem byteOfChar?_charOfByte (htable : IsUpperHalf table)
    (hnodup : (table.filter (· ≠ 0xFFFD)).Nodup) {b : UInt8}
    (hne : charOfByte table b ≠ Utf8.replacement) :
    byteOfChar? table (charOfByte table b) = some b := by
  by_cases hb : b.toNat < 0x80
  · rw [byteOfChar?, toNat_charOfByte_of_lt table hb, if_pos hb, UInt8.ofNat_toNat]
  · obtain ⟨hlt, hnumber⟩ := exists_toNat_charOfByte htable hb
    have hupper : ¬ table[b.toNat - 0x80] < 0x80 :=
      Nat.not_lt.mpr (htable.upper _ (List.getElem_mem hlt))
    have hgap : table[b.toNat - 0x80] ≠ 0xFFFD := fun heq =>
      hne (Char.toNat_inj.mp (hnumber.trans heq))
    have hindex : table.idxOf? table[b.toNat - 0x80] = some (b.toNat - 0x80) := by
      refine List.idxOf?_eq_some_iff.mpr ⟨hlt, rfl, fun j hj heq => ?_⟩
      have hapart := List.pairwise_iff_getElem.mp (List.pairwise_filter.mp hnodup) j _
        (Nat.lt_trans hj hlt) hlt hj
      exact hapart (by simpa [heq] using hgap) (by simpa using hgap) heq
    have hsum : 0x80 + (b.toNat - 0x80) = b.toNat := by omega
    rw [byteOfChar?, hnumber, if_neg hupper, if_neg hne, hindex, Option.map_some, hsum,
      UInt8.ofNat_toNat]

/-! ## Texts -/

/-- The reference that stands for a character is longer than one octet. -/
theorem one_lt_length_numberReference (c : Char) : 1 < (numberReference c).length := by
  have hmark : String.utf8EncodeChar '&' = [0x26] := by decide
  have hsign : String.utf8EncodeChar '#' = [0x23] := by decide
  rw [numberReference, Utf8.encode_cons, Utf8.encode_cons, hmark, hsign]
  simp

/-- A character takes at least one octet, and no more exactly if it has one. -/
theorem length_bytesOfChar (table : List Nat) (c : Char) :
    1 ≤ (bytesOfChar table c).length ∧
      ((bytesOfChar table c).length = 1 ↔ (byteOfChar? table c).isSome = true) := by
  unfold bytesOfChar
  split
  · rename_i b h
    simp [h]
  · rename_i h
    have hlong := one_lt_length_numberReference c
    rw [h]
    exact ⟨Nat.le_of_lt hlong, iff_of_false (Nat.ne_of_gt hlong) (by decide)⟩

theorem length_le_length_flatMap (table : List Nat) (text : Text) :
    text.length ≤ (text.flatMap (bytesOfChar table)).length := by
  induction text with
  | nil => exact Nat.le_refl 0
  | cons c text ih =>
    have := (length_bytesOfChar table c).1
    rw [List.flatMap_cons, List.length_append, List.length_cons]
    omega

/-- **A text takes as many octets as it has characters exactly if each of these has an octet.** -/
theorem length_flatMap_eq_iff (table : List Nat) (text : Text) :
    (text.flatMap (bytesOfChar table)).length = text.length ↔
      ∀ c ∈ text, (byteOfChar? table c).isSome = true := by
  induction text with
  | nil => simp
  | cons c text ih =>
    obtain ⟨hpos, hone⟩ := length_bytesOfChar table c
    have hrest := length_le_length_flatMap table text
    rw [List.forall_mem_cons, ← ih, ← hone, List.flatMap_cons, List.length_append, List.length_cons]
    omega

/-- **A text is read from its own bytes exactly if an octet stands for each of its characters.** -/
theorem map_charOfByte_flatMap_iff (htable : IsUpperHalf table) (text : Text) :
    (text.flatMap (bytesOfChar table)).map (charOfByte table) = text ↔ ∀ c ∈ text, Has table c := by
  have hhas : (∀ c ∈ text, Has table c) ↔ ∀ c ∈ text, (byteOfChar? table c).isSome = true :=
    forall₂_congr fun _ _ => (isSome_byteOfChar?_iff htable).symm
  rw [hhas]
  constructor
  · intro h
    have hlength := congrArg List.length h
    rw [List.length_map] at hlength
    exact (length_flatMap_eq_iff table text).mp hlength
  · intro h
    clear hhas
    induction text with
    | nil => rfl
    | cons c text ih =>
      obtain ⟨hsome, htext⟩ := List.forall_mem_cons.mp h
      obtain ⟨b, hb⟩ := Option.isSome_iff_exists.mp hsome
      rw [List.flatMap_cons, List.map_append, ih htext, bytesOfChar, hb, List.map_singleton,
        charOfByte_of_byteOfChar? htable hb]
      rfl

/-- **Bytes are those of the text that is read from them exactly if each stands for a
character.** -/
theorem flatMap_bytesOfChar_map_iff (htable : IsUpperHalf table)
    (hnodup : (table.filter (· ≠ 0xFFFD)).Nodup) (bytes : Bytes) :
    (bytes.map (charOfByte table)).flatMap (bytesOfChar table) = bytes ↔
      ∀ b ∈ bytes, charOfByte table b ≠ Utf8.replacement := by
  constructor
  · intro h b hb
    have hlength : ((bytes.map (charOfByte table)).flatMap (bytesOfChar table)).length =
        (bytes.map (charOfByte table)).length := by
      rw [h, List.length_map]
    have hsome := (length_flatMap_eq_iff table _).mp hlength _ (List.mem_map_of_mem hb)
    exact ((isSome_byteOfChar?_iff htable).mp hsome).1
  · intro h
    induction bytes with
    | nil => rfl
    | cons b bytes ih =>
      obtain ⟨hne, hrest⟩ := List.forall_mem_cons.mp h
      have hoctet : bytesOfChar table (charOfByte table b) = [b] := by
        rw [bytesOfChar, byteOfChar?_charOfByte htable hnodup hne]
      rw [List.map_cons, List.flatMap_cons, hoctet, ih hrest]
      rfl

end Charset
end OutboundHttp
