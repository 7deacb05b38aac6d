import OutboundHttp.Proofs.Data.Delimited
import OutboundHttp.Text.Utf8

/-!
# Text from its own bytes

The reader of bytes undoes the writer of text (`decodeLossy_encode`), and so reads what
was written to the end before it looks at what follows (`decodeFrom_encode_append`).  What
begins with a character of ASCII is found in the bytes of a text where it is in the text
(`encode_infix_encode_iff`).
-/
namespace OutboundHttp
namespace Utf8

/-! ## Octets behind the first -/

/-- The octet behind the first of a character that holds the last six bits of a number. -/
def trail (n : Nat) : UInt8 :=
  UInt8.ofNat (n % 0x40 + 0x80)

theorem toNat_trail (n : Nat) : (trail n).toNat = n % 0x40 + 0x80 := by
  rw [trail, UInt8.toNat_ofNat']
  omega

theorem step_inside {value n : Nat} {least most : UInt8} (hleast : least.toNat ≤ n % 0x40 + 0x80)
    (hmost : n % 0x40 + 0x80 ≤ most.toNat) (wanting : Nat) :
    step (.inside (wanting + 1) value least most) (trail n) =
      ([], .inside wanting (value * 64 + n % 0x40) 0x80 0xBF) ∧
    step (.inside 0 value least most) (trail n) =
      ([Char.ofNat (value * 64 + n % 0x40)], .between) := by
  have hbounds : least ≤ trail n ∧ trail n ≤ most := by
    rw [UInt8.le_iff_toNat_le, UInt8.le_iff_toNat_le, toNat_trail]
    exact ⟨hleast, hmost⟩
  simp only [step, if_pos hbounds, toNat_trail, Nat.add_sub_cancel, and_self]

/-- An octet goes on with a character. -/
theorem decodeFrom_trail {value n : Nat} {least most : UInt8}
    (hleast : least.toNat ≤ n % 0x40 + 0x80) (hmost : n % 0x40 + 0x80 ≤ most.toNat)
    (wanting : Nat) (rest : Bytes) :
    decodeFrom (.inside (wanting + 1) value least most) (trail n :: rest) =
      decodeFrom (.inside wanting (value * 64 + n % 0x40) 0x80 0xBF) rest := by
  rw [decodeFrom, (step_inside hleast hmost wanting).1]
  rfl

/-- An octet ends a character. -/
theorem decodeFrom_last {value n : Nat} {least most : UInt8}
    (hleast : least.toNat ≤ n % 0x40 + 0x80) (hmost : n % 0x40 + 0x80 ≤ most.toNat)
    (rest : Bytes) :
    decodeFrom (.inside 0 value least most) (trail n :: rest) =
      Char.ofNat (value * 64 + n % 0x40) :: decodeFrom .between rest := by
  rw [decodeFrom, (step_inside hleast hmost 0).2]
  rfl

theorem least_le_trail (n : Nat) : (0x80 : UInt8).toNat ≤ n % 0x40 + 0x80 :=
  Nat.le_add_left _ _

theorem trail_le_most (n : Nat) : n % 0x40 + 0x80 ≤ (0xBF : UInt8).toNat := by
  change n % 0x40 + 0x80 ≤ 0xBF
  omega

/-! ## First octets -/

theorem lead_one : ∀ n < 0x80, lead (UInt8.ofNat n) = ([Char.ofNat n], .between) := by
  decide +kernel

theorem lead_two : ∀ n < 0x20, 2 ≤ n →
    lead (UInt8.ofNat (n + 0xC0)) = ([], .inside 0 n 0x80 0xBF) := by
  decide

/-- The first of three octets leaves out numbers that want fewer octets, and surrogates. -/
theorem lead_three : ∀ n < 0x10, lead (UInt8.ofNat (n + 0xE0)) =
    ([], .inside 1 n (if n = 0 then 0xA0 else 0x80) (if n = 0xD then 0x9F else 0xBF)) := by
  decide

/-- The first of four octets leaves out numbers that want fewer octets, and those that
are too large. -/
theorem lead_four : ∀ n < 5, lead (UInt8.ofNat (n + 0xF0)) =
    ([], .inside 2 n (if n = 0 then 0x90 else 0x80) (if n = 4 then 0x8F else 0xBF)) := by
  decide

/-! ## Characters -/

theorem toNat_ofNat {n : Nat} (h : n.isValidChar) : (Char.ofNat n).toNat = n := by
  rw [Char.ofNat, dif_pos h]
  rfl

/-- The octets of a character, by its number. -/
theorem utf8EncodeChar_eq (c : Char) : String.utf8EncodeChar c =
    if c.toNat ≤ 0x7F then [UInt8.ofNat c.toNat]
    else if c.toNat ≤ 0x7FF then [UInt8.ofNat (c.toNat / 64 % 0x20 + 0xC0), trail c.toNat]
    else if c.toNat ≤ 0xFFFF then
      [UInt8.ofNat (c.toNat / 4096 % 0x10 + 0xE0), trail (c.toNat / 64), trail c.toNat]
    else
      [UInt8.ofNat (c.toNat / 262144 % 0x08 + 0xF0), trail (c.toNat / 4096),
        trail (c.toNat / 64), trail c.toNat] :=
  rfl

/-- A character of ASCII is one octet. -/
theorem utf8EncodeChar_ofNat : ∀ n < 0x80, String.utf8EncodeChar (Char.ofNat n) = [UInt8.ofNat n] := by
  decide +kernel

theorem decodeFrom_cons (b : UInt8) (rest : Bytes) :
    decodeFrom .between (b :: rest) = (lead b).1 ++ decodeFrom (lead b).2 rest :=
  rfl

/-- **A character is read from its octets.** -/
theorem decodeFrom_encodeChar (c : Char) (rest : Bytes) :
    decodeFrom .between (String.utf8EncodeChar c ++ rest) = c :: decodeFrom .between rest := by
  have hvalid : c.toNat < 0xD800 ∨ 0xDFFF < c.toNat ∧ c.toNat < 0x110000 := c.valid
  have hchar : ∀ n, n = c.toNat → Char.ofNat n = c := fun n h => h ▸ Char.ofNat_toNat c
  generalize hn : c.toNat = n at *
  rw [utf8EncodeChar_eq, hn]
  split
  · -- one octet
    rw [List.cons_append, decodeFrom_cons, lead_one n (by omega), hchar n rfl]
    rfl
  split
  · -- two octets
    have hhigh : n / 64 % 0x20 = n / 64 := by omega
    rw [List.cons_append, decodeFrom_cons, hhigh, lead_two _ (by omega) (by omega)]
    refine (decodeFrom_last (least_le_trail n) (trail_le_most n) rest).trans ?_
    rw [hchar _ (by omega)]
  split
  · -- three octets; what the first leaves out is left out by the range of the second
    have hhigh : n / 4096 % 0x10 = n / 4096 := by omega
    rw [List.cons_append, decodeFrom_cons, hhigh, lead_three _ (by omega)]
    refine (decodeFrom_trail ?_ ?_ 0 _).trans ?_
    · split
      · change 0xA0 ≤ n / 64 % 0x40 + 0x80
        omega
      · exact least_le_trail _
    · split
      · change n / 64 % 0x40 + 0x80 ≤ 0x9F
        omega
      · exact trail_le_most _
    · refine (decodeFrom_last (least_le_trail n) (trail_le_most n) rest).trans ?_
      rw [hchar _ (by omega)]
  · -- four octets
    have hhigh : n / 262144 % 0x08 = n / 262144 := by omega
    rw [List.cons_append, decodeFrom_cons, hhigh, lead_four _ (by omega)]
    refine (decodeFrom_trail ?_ ?_ 1 _).trans ?_
    · split
      · change 0x90 ≤ n / 4096 % 0x40 + 0x80
        omega
      · exact least_le_trail _
    · split
      · change n / 4096 % 0x40 + 0x80 ≤ 0x8F
        omega
      · exact trail_le_most _
    · refine (decodeFrom_trail (least_le_trail _) (trail_le_most _) 0 _).trans ?_
      refine (decodeFrom_last (least_le_trail n) (trail_le_most n) rest).trans ?_
      rw [hchar _ (by omega)]

/-- An octet of ASCII is the whole of a character. -/
theorem toNat_eq_of_mem_utf8EncodeChar {b : UInt8} {c : Char} (h : b ∈ String.utf8EncodeChar c)
    (hb : b.toNat < 0x80) : c.toNat = b.toNat := by
  have htrail (n : Nat) : b ≠ trail n := by
    rintro rfl
    rw [toNat_trail] at hb
    omega
  rw [utf8EncodeChar_eq] at h
  repeat' split at h
  · obtain rfl := List.mem_singleton.mp h
    rw [UInt8.toNat_ofNat']
    omega
  all_goals
    -- All octets of a longer character are above ASCII.
    exfalso
    simp only [List.mem_cons, htrail, List.not_mem_nil, or_false] at h
    rw [h, UInt8.toNat_ofNat'] at hb
    omega

/-! ## Texts -/

theorem decodeFrom_encode_append (text : Text) (rest : Bytes) :
    decodeFrom .between (encode text ++ rest) = text ++ decodeFrom .between rest := by
  induction text with
  | nil => rfl
  | cons c text ih =>
    rw [encode_cons, List.append_assoc, decodeFrom_encodeChar, ih]
    rfl

/-- **A text is read from its own bytes.** -/
theorem decodeLossy_encode (text : Text) : decodeLossy (encode text) = text := by
  have h := decodeFrom_encode_append text []
  rw [List.append_nil] at h
  exact h.trans (List.append_nil text)

/-- Bytes are those of the text that is read from them only if they are those of any. -/
theorem encode_decodeLossy_iff {bytes : Bytes} :
    encode (decodeLossy bytes) = bytes ↔ ∃ text, encode text = bytes := by
  constructor
  · intro h
    exact ⟨_, h⟩
  · rintro ⟨text, rfl⟩
    rw [decodeLossy_encode]

/-- Only the empty text has no bytes. -/
theorem encode_eq_nil_iff {text : Text} : encode text = [] ↔ text = [] := by
  constructor
  · intro h
    rw [← decodeLossy_encode text, h]
    rfl
  · rintro rfl
    rfl

/-- Octets of ASCII are those of their characters. -/
theorem encode_map_ofNat {bytes : Bytes} (h : ∀ b ∈ bytes, b.toNat < 0x80) :
    encode (bytes.map fun b => Char.ofNat b.toNat) = bytes := by
  induction bytes with
  | nil => rfl
  | cons b bytes ih =>
    obtain ⟨hb, hrest⟩ := List.forall_mem_cons.mp h
    rw [List.map_cons, encode_cons, utf8EncodeChar_ofNat _ hb, ih hrest, UInt8.ofNat_toNat]
    rfl

theorem decode?_encode (text : Text) : decode? (encode text) = some text := by
  rw [decode?, decodeLossy_encode]
  exact if_pos rfl

/-- A text that is read without a fault has the bytes that it was read from. -/
theorem eq_encode_of_decode? {bytes : Bytes} {text : Text} (h : decode? bytes = some text) :
    bytes = encode text := by
  rw [decode?] at h
  split at h
  · rename_i hencode
    cases h
    exact hencode.symm
  · cases h

/-- An octet of ASCII in the bytes of a text stands for its own character. -/
theorem ofNat_mem_of_mem_encode {b : UInt8} {text : Text} (h : b ∈ encode text)
    (hb : b.toNat < 0x80) : Char.ofNat b.toNat ∈ text := by
  obtain ⟨c, hc, hmem⟩ := List.mem_flatMap.mp h
  rw [← toNat_eq_of_mem_utf8EncodeChar hmem hb, Char.ofNat_toNat]
  exact hc

theorem prefix_of_prefix_encode {part text : Text} (h : encode part <+: encode text) :
    part <+: text := by
  obtain ⟨rest, hrest⟩ := h
  have hread := decodeFrom_encode_append part rest
  rw [hrest] at hread
  exact ⟨decodeFrom .between rest, hread.symm.trans (decodeLossy_encode text)⟩

theorem encode_ofNat_cons {n : Nat} (hn : n < 0x80) (text : Text) :
    encode (Char.ofNat n :: text) = UInt8.ofNat n :: encode text := by
  rw [encode_cons, utf8EncodeChar_ofNat n hn]
  rfl

/-- The octet of a character of ASCII is nowhere inside another character, so a text that
begins with one is found at the beginning of a character. -/
theorem encode_infix_encode_iff {n : Nat} (hn : n < 0x80) {part text : Text} :
    encode (Char.ofNat n :: part) <:+: encode text ↔ Char.ofNat n :: part <:+: text := by
  constructor
  · intro h
    induction text with
    | nil => simp [encode_ofNat_cons hn] at h
    | cons c text ih =>
      by_cases hmem : UInt8.ofNat n ∈ String.utf8EncodeChar c
      · have hoctet : (UInt8.ofNat n).toNat = n := by
          rw [UInt8.toNat_ofNat']
          omega
        have hc : c = Char.ofNat n := by
          rw [← Char.ofNat_toNat c, toNat_eq_of_mem_utf8EncodeChar hmem (by omega), hoctet]
        subst hc
        rw [encode_ofNat_cons hn text] at h
        rcases List.infix_cons_iff.mp h with hstart | hbehind
        · rw [← encode_ofNat_cons hn] at hstart
          exact (prefix_of_prefix_encode hstart).isInfix
        · exact List.infix_cons (ih hbehind)
      · rw [encode_ofNat_cons hn, encode_cons] at h
        have hbehind := Delimited.infix_of_infix_append hmem h
        rw [← encode_ofNat_cons hn] at hbehind
        exact List.infix_cons (ih hbehind)
  · rintro ⟨front, back, rfl⟩
    exact ⟨encode front, encode back, by simp⟩

end Utf8
end OutboundHttp
