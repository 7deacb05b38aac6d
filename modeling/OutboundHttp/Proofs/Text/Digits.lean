import OutboundHttp.Text.Digits

/-!
# Numbers read and written

A number written in decimal digits is read back as itself.  A text of digits that is
read and written again is the same unless it begins with zeros that it can do without
(`ofNat_ofDigits_iff`).  Of hexadecimal digits it is enough to know that they can be seen
(`toNat_of_mem_hexOfNat`).
-/
namespace OutboundHttp
namespace Text

theorem toNat_of_isDigit {c : Char} (h : c.isDigit = true) : 48 ≤ c.toNat ∧ c.toNat ≤ 57 := by
  simp only [Char.isDigit, Bool.and_eq_true, decide_eq_true_eq] at h
  exact ⟨UInt32.le_iff_toNat_le.mp h.1, UInt32.le_iff_toNat_le.mp h.2⟩

theorem toNat_of_isAlpha {c : Char} (h : c.isAlpha = true) :
    (65 ≤ c.toNat ∧ c.toNat ≤ 90) ∨ (97 ≤ c.toNat ∧ c.toNat ≤ 122) := by
  have hcase : (c.isUpper || c.isLower) = true := h
  rcases Bool.or_eq_true_iff.mp hcase with hupper | hlower
  · have hbounds := of_decide_eq_true hupper
    exact Or.inl ⟨UInt32.le_iff_toNat_le.mp hbounds.1, UInt32.le_iff_toNat_le.mp hbounds.2⟩
  · obtain ⟨hlow, hhigh⟩ := Bool.and_eq_true_iff.mp hlower
    exact Or.inr ⟨UInt32.le_iff_toNat_le.mp (of_decide_eq_true hlow),
      UInt32.le_iff_toNat_le.mp (of_decide_eq_true hhigh)⟩

theorem digitChar_of_isDigit {c : Char} (h : c.isDigit = true) :
    Nat.digitChar (c.toNat - 48) = c := by
  have every : ∀ n ∈ List.range 10, Nat.digitChar n = Char.ofNat (48 + n) := by decide
  obtain ⟨low, high⟩ := toNat_of_isDigit h
  rw [every (c.toNat - 48) (List.mem_range.mpr (by omega)),
    show 48 + (c.toNat - 48) = c.toNat by omega]
  exact Char.ofNat_toNat c

theorem hexValue?_of_isDigit {c : Char} (h : c.isDigit = true) :
    hexValue? c = some (c.toNat - 48) := by
  obtain ⟨low, high⟩ := toNat_of_isDigit h
  have hlow : '0' ≤ c := UInt32.le_iff_toNat_le.mpr low
  have hhigh : c ≤ '9' := UInt32.le_iff_toNat_le.mpr high
  rw [hexValue?, if_pos ⟨hlow, hhigh⟩]

theorem ofDigits_eq_ofDigitChars {digits : Text} (h : ∀ c ∈ digits, c.isDigit) :
    ofDigits 10 digits = Nat.ofDigitChars 10 digits 0 := by
  have every : ∀ n, digits.foldl (fun n c => n * 10 + (hexValue? c).getD 0) n =
      Nat.ofDigitChars 10 digits n := by
    induction digits with
    | nil => intro n; simp
    | cons c rest ih =>
      intro n
      rw [List.foldl_cons, ih fun d hd => h d (List.mem_cons_of_mem _ hd), Nat.ofDigitChars_cons,
        hexValue?_of_isDigit (h c List.mem_cons_self), Nat.mul_comm]
      rfl
  exact every 0

theorem isDigit_of_mem_ofNat {n : Nat} : ∀ c ∈ ofNat n, c.isDigit = true :=
  fun _ hc => Nat.isDigit_of_mem_toDigits (by decide) (by decide) hc

/-- A number read from its own digits. -/
theorem ofDigits_ofNat (n : Nat) : ofDigits 10 (ofNat n) = n := by
  rw [ofDigits_eq_ofDigitChars isDigit_of_mem_ofNat, ofNat, Nat.ofDigitChars_ten_toDigits]

/-- Digits read behind a number that is not zero are written behind it again. -/
theorem toDigits_ofDigitChars {digits : Text} (h : ∀ c ∈ digits, c.isDigit) {n : Nat} (hn : 0 < n) :
    Nat.toDigits 10 (Nat.ofDigitChars 10 digits n) = Nat.toDigits 10 n ++ digits := by
  induction digits generalizing n with
  | nil => simp
  | cons c rest ih =>
    have hc := h c List.mem_cons_self
    obtain ⟨low, high⟩ := toNat_of_isDigit hc
    have hdigit : c.toNat - 48 < 10 := by omega
    rw [Nat.ofDigitChars_cons, ih (fun d hd => h d (List.mem_cons_of_mem _ hd)) (by omega),
      show c.toNat - '0'.toNat = c.toNat - 48 from rfl,
      ← Nat.toDigits_append_toDigits (by decide) hn hdigit, Nat.toDigits_of_lt_base hdigit,
      digitChar_of_isDigit hc, List.append_assoc]
    rfl

/-- Only zero is written with a zero in front. -/
theorem eq_zero_of_head?_ofNat {n : Nat} (h : (ofNat n).head? = some '0') : n = 0 := by
  induction n using Nat.strongRecOn with
  | ind n ih =>
    by_cases hsmall : n < 10
    · rw [ofNat, Nat.toDigits_of_lt_base hsmall] at h
      simpa using h
    · rw [ofNat, Nat.toDigits_of_base_le (by decide) (by omega), List.head?_append] at h
      have hzero := ih (n / 10) (by omega) (by
        rw [ofNat]
        cases hdigits : Nat.toDigits 10 (n / 10) with
        | nil => exact absurd hdigits Nat.toDigits_ne_nil
        | cons c rest => simpa [hdigits] using h)
      omega

/-- The digits do not begin with a zero that they can do without. -/
def IsShortest (digits : Text) : Prop :=
  digits.head? = some '0' → digits = ['0']

instance (digits : Text) : Decidable (IsShortest digits) :=
  inferInstanceAs (Decidable (_ → _))

/-- Digits written again are the same if they have no zeros to spare. -/
theorem ofNat_ofDigits_iff {digits : Text} (hne : digits ≠ []) (h : ∀ c ∈ digits, c.isDigit) :
    ofNat (ofDigits 10 digits) = digits ↔ IsShortest digits := by
  constructor
  · intro heq hzero
    rw [← heq] at hzero
    rw [← heq, eq_zero_of_head?_ofNat hzero]
    rfl
  · intro hshort
    cases digits with
    | nil => exact absurd rfl hne
    | cons c rest =>
      by_cases hzero : c = '0'
      · rw [hshort (by rw [hzero]; rfl)]
        rfl
      · have hc := h c List.mem_cons_self
        obtain ⟨low, high⟩ := toNat_of_isDigit hc
        have hpos : c.toNat ≠ 48 := fun heq => hzero (by rw [← Char.ofNat_toNat c, heq])
        rw [ofDigits_eq_ofDigitChars h, ofNat, Nat.ofDigitChars_cons,
          show 10 * 0 + (c.toNat - '0'.toNat) = c.toNat - 48 from Nat.zero_add _,
          toDigits_ofDigitChars (fun d hd => h d (List.mem_cons_of_mem _ hd)) (by omega),
          Nat.toDigits_of_lt_base (by omega), digitChar_of_isDigit hc]
        rfl

/-! ## Hexadecimal digits -/

theorem toNat_of_mem_toDigits {n : Nat} {c : Char} (h : c ∈ Nat.toDigits 16 n) :
    0x30 ≤ c.toNat ∧ c.toNat ≤ 0x66 := by
  have every : ∀ m < 16, 0x30 ≤ (Nat.digitChar m).toNat ∧ (Nat.digitChar m).toNat ≤ 0x66 := by
    decide
  induction n using Nat.strongRecOn with
  | ind n ih =>
    rw [Nat.toDigits_eq_if (by decide)] at h
    split at h
    · rw [List.mem_singleton.mp h]
      exact every n ‹_›
    · rcases List.mem_append.mp h with h | h
      · exact ih (n / 16) (by omega) h
      · rw [List.mem_singleton.mp h]
        exact every _ (Nat.mod_lt _ (by decide))

theorem toNat_of_mem_hexOfNat {width n : Nat} {c : Char} (h : c ∈ hexOfNat width n) :
    0x30 ≤ c.toNat ∧ c.toNat ≤ 0x66 := by
  rcases List.mem_append.mp h with h | h
  · rw [List.eq_of_mem_replicate h]
    decide
  · exact toNat_of_mem_toDigits h

end Text
end OutboundHttp
