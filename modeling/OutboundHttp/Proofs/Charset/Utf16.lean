import OutboundHttp.Charset.Utf16
import OutboundHttp.Proofs.Text.Utf8

/-!
# Text from its own units

The reader of UTF-16 undoes the writer (`decode_encode`), in either order of the octets:
a character below the surrogates or above them is one unit that is no surrogate, and any
other is a first surrogate with its partner.  So texts are written as those byte strings that are
made of whole units and have no surrogate without its partner (`isWellFormed_iff`), and of no
other does the reader give the text that is written as this string again (`encode_decode_eq_iff`).
-/
namespace OutboundHttp
namespace Utf16

variable {order : ByteOrder}

/-- A unit is two octets. -/
theorem exists_unitBytes_eq (order : ByteOrder) {u : Nat} (hu : u < 0x10000) :
    ∃ first second, unitBytes order u = [first, second] ∧ unit order first second = u := by
  have hlow : (UInt8.ofNat (u % 256)).toNat = u % 256 := by
    rw [UInt8.toNat_ofNat']
    omega
  have hhigh : (UInt8.ofNat (u / 256)).toNat = u / 256 := by
    rw [UInt8.toNat_ofNat']
    omega
  have hunit : u / 256 * 256 + u % 256 = u := by omega
  cases order
  · exact ⟨_, _, rfl, by rw [unit, hlow, hhigh, hunit]⟩
  · exact ⟨_, _, rfl, by rw [unit, hlow, hhigh, hunit]⟩

/-- **A unit is read from its two octets.** -/
theorem decodeFrom_unitBytes {u : Nat} (hu : u < 0x10000) (waiting : Option Nat) (rest : Bytes) :
    decodeFrom order waiting (unitBytes order u ++ rest) =
      (step waiting u).1 ++ decodeFrom order (step waiting u).2 rest := by
  obtain ⟨first, second, hbytes, hunit⟩ := exists_unitBytes_eq order hu
  rw [hbytes]
  cases waiting <;> simp only [List.cons_append, List.nil_append, decodeFrom, hunit]

/-! ## What a unit completes -/

theorem lead_of_lt {u : Nat} (h : u < 0xD800) : lead u = ([Char.ofNat u], none) := by
  have hhigh : isHigh u = false := by simp [isHigh, Nat.not_le.mpr h]
  have hlow : isLow u = false := by simp [isLow]; omega
  simp [lead, hhigh, hlow]

theorem lead_of_gt {u : Nat} (h : 0xDFFF < u) : lead u = ([Char.ofNat u], none) := by
  have hhigh : isHigh u = false := by simp [isHigh]; omega
  have hlow : isLow u = false := by simp [isLow, h]
  simp [lead, hhigh, hlow]

theorem lead_first {k : Nat} (h : k < 0x400) : lead (0xD800 + k) = ([], some (0xD800 + k)) := by
  have hhigh : isHigh (0xD800 + k) = true := by simp [isHigh]; omega
  simp [lead, hhigh]

theorem step_pair {k l : Nat} (hl : l < 0x400) :
    step (some (0xD800 + k)) (0xDC00 + l) = ([Char.ofNat (0x10000 + k * 0x400 + l)], none) := by
  have hlow : isLow (0xDC00 + l) = true := by simp [isLow]; omega
  simp [step, hlow]

/-! ## Texts -/

/-- **A character is read from its units.** -/
theorem decodeFrom_unitsOf (c : Char) (rest : Bytes) :
    decodeFrom order none ((unitsOf c).flatMap (unitBytes order) ++ rest) =
      c :: decodeFrom order none rest := by
  have hvalid : c.toNat < 0xD800 ∨ 0xDFFF < c.toNat ∧ c.toNat < 0x110000 := c.valid
  have hchar : ∀ n, n = c.toNat → Char.ofNat n = c := fun n h => h ▸ Char.ofNat_toNat c
  rw [unitsOf]
  generalize hn : c.toNat = n at *
  split
  · -- one unit, which is no surrogate
    have hlead : lead n = ([c], none) := by
      rcases hvalid with h | ⟨h, -⟩
      · rw [lead_of_lt h, hchar n rfl]
      · rw [lead_of_gt h, hchar n rfl]
    rw [List.flatMap_singleton, decodeFrom_unitBytes ‹_›, step, hlead]
    rfl
  · -- a first surrogate and its partner
    have hfirst : (n - 0x10000) / 0x400 < 0x400 := by omega
    have hsecond : (n - 0x10000) % 0x400 < 0x400 := Nat.mod_lt _ (by decide)
    rw [List.flatMap_cons, List.flatMap_singleton, List.append_assoc,
      decodeFrom_unitBytes (by omega), step, lead_first hfirst, List.nil_append,
      decodeFrom_unitBytes (by omega), step_pair hsecond, hchar _ (by omega)]
    rfl

/-- **A text is read from its own bytes.** -/
theorem decode_encode (order : ByteOrder) (text : Text) :
    decode order (encode order text) = text := by
  induction text with
  | nil => cases order <;> rfl
  | cons c text ih =>
    rw [encode, List.flatMap_cons, decode, decodeFrom_unitsOf]
    exact congrArg (c :: ·) ih

/-! ## Units in pairs -/

/-- The units of a byte string; an octet that is left at the end belongs to none. -/
def units (order : ByteOrder) : Bytes → List Nat
  | first :: second :: rest => unit order first second :: units order rest
  | _ => []

/-- Each first surrogate has a second one directly behind it, and there are no other surrogates. -/
inductive IsPaired : List Nat → Prop
  | nil : IsPaired []
  | single {u : Nat} {rest : List Nat} (hhigh : isHigh u = false) (hlow : isLow u = false)
      (hrest : IsPaired rest) : IsPaired (u :: rest)
  | pair {first second : Nat} {rest : List Nat} (hfirst : isHigh first = true)
      (hsecond : isLow second = true) (hrest : IsPaired rest) : IsPaired (first :: second :: rest)

/-- The byte string is made of whole units, with the surrogates in pairs. -/
structure IsWellFormed (order : ByteOrder) (bytes : Bytes) : Prop where
  even : bytes.length % 2 = 0
  paired : IsPaired (units order bytes)

theorem isHigh_iff {u : Nat} : isHigh u = true ↔ 0xD800 ≤ u ∧ u ≤ 0xDBFF := by
  simp [isHigh]

theorem isLow_iff {u : Nat} : isLow u = true ↔ 0xDC00 ≤ u ∧ u ≤ 0xDFFF := by
  simp [isLow]

/-- A unit that is no surrogate is a character. -/
theorem unitsOf_single {u : Nat} (hu : u < 0x10000) (hhigh : isHigh u = false)
    (hlow : isLow u = false) : unitsOf (Char.ofNat u) = [u] := by
  have hvalid : u < 0xD800 ∨ 0xDFFF < u ∧ u < 0x110000 := by
    have hhigh := mt isHigh_iff.mpr (Bool.eq_false_iff.mp hhigh)
    have hlow := mt isLow_iff.mpr (Bool.eq_false_iff.mp hlow)
    omega
  rw [unitsOf, Utf8.toNat_ofNat hvalid, if_pos hu]

/-- Two surrogates in their order are a character. -/
theorem unitsOf_pair {first second : Nat} (hfirst : isHigh first = true)
    (hsecond : isLow second = true) :
    unitsOf (Char.ofNat (0x10000 + (first - 0xD800) * 0x400 + (second - 0xDC00))) =
      [first, second] := by
  obtain ⟨hfirst, hfirst'⟩ := isHigh_iff.mp hfirst
  obtain ⟨hsecond, hsecond'⟩ := isLow_iff.mp hsecond
  generalize hn : 0x10000 + (first - 0xD800) * 0x400 + (second - 0xDC00) = n
  have hvalid : n < 0xD800 ∨ 0xDFFF < n ∧ n < 0x110000 := by omega
  have hhigh : 0xD800 + (n - 0x10000) / 0x400 = first := by omega
  have hlow : 0xDC00 + (n - 0x10000) % 0x400 = second := by omega
  rw [unitsOf, Utf8.toNat_ofNat hvalid, if_neg (by omega), hhigh, hlow]

/-- Units with their surrogates in pairs are those of a text. -/
theorem IsPaired.exists_text {us : List Nat} (h : IsPaired us) (hunits : ∀ u ∈ us, u < 0x10000) :
    ∃ text : Text, text.flatMap unitsOf = us := by
  induction h with
  | nil => exact ⟨[], rfl⟩
  | @single u rest hhigh hlow _ ih =>
    obtain ⟨hu, hrest⟩ := List.forall_mem_cons.mp hunits
    obtain ⟨text, rfl⟩ := ih hrest
    refine ⟨Char.ofNat u :: text, ?_⟩
    rw [List.flatMap_cons, unitsOf_single hu hhigh hlow, List.singleton_append]
  | @pair first second rest hfirst hsecond _ ih =>
    obtain ⟨-, hrest⟩ := List.forall_mem_cons.mp hunits
    obtain ⟨text, rfl⟩ := ih (List.forall_mem_cons.mp hrest).2
    refine ⟨Char.ofNat (0x10000 + (first - 0xD800) * 0x400 + (second - 0xDC00)) :: text, ?_⟩
    rw [List.flatMap_cons, unitsOf_pair hfirst hsecond]
    rfl

/-- The units of a character come before any others without breaking a pair. -/
theorem IsPaired.unitsOf_append (c : Char) {rest : List Nat} (h : IsPaired rest) :
    IsPaired (unitsOf c ++ rest) := by
  have hvalid : c.toNat < 0xD800 ∨ 0xDFFF < c.toNat ∧ c.toNat < 0x110000 := c.valid
  rw [unitsOf]
  generalize c.toNat = n at *
  split
  · refine .single ?_ ?_ h
    · exact Bool.eq_false_iff.mpr fun hhigh => by rw [isHigh_iff] at hhigh; omega
    · exact Bool.eq_false_iff.mpr fun hlow => by rw [isLow_iff] at hlow; omega
  · exact .pair (isHigh_iff.mpr (by omega)) (isLow_iff.mpr (by omega)) h

theorem isPaired_flatMap_unitsOf (text : Text) : IsPaired (text.flatMap unitsOf) := by
  induction text with
  | nil => exact .nil
  | cons c text ih => exact ih.unitsOf_append c

theorem lt_of_mem_unitsOf {c : Char} : ∀ u ∈ unitsOf c, u < 0x10000 := by
  have hvalid : c.toNat < 0xD800 ∨ 0xDFFF < c.toNat ∧ c.toNat < 0x110000 := c.valid
  intro u hu
  rw [unitsOf] at hu
  generalize c.toNat = n at *
  split at hu
  · rw [List.mem_singleton.mp hu]
    assumption
  · simp only [List.mem_cons, List.not_mem_nil, or_false] at hu
    omega

/-! ## Bytes from their own text -/

theorem lt_of_mem_units (bytes : Bytes) : ∀ u ∈ units order bytes, u < 0x10000 := by
  fun_induction units order bytes with
  | case1 first second rest ih =>
    have hfirst := first.toNat_lt
    have hsecond := second.toNat_lt
    refine List.forall_mem_cons.mpr ⟨?_, ih⟩
    cases order <;> rw [unit] <;> omega
  | case2 => exact List.forall_mem_nil _

theorem unitBytes_unit (order : ByteOrder) (first second : UInt8) :
    unitBytes order (unit order first second) = [first, second] := by
  have hfirst := first.toNat_lt
  have hsecond := second.toNat_lt
  have hoctet {b : UInt8} {m : Nat} (hm : m = b.toNat) : UInt8.ofNat m = b := by
    rw [hm, UInt8.ofNat_toNat]
  cases order with
  | littleEndian =>
    have hlow : UInt8.ofNat ((second.toNat * 256 + first.toNat) % 256) = first := hoctet (by omega)
    have hhigh : UInt8.ofNat ((second.toNat * 256 + first.toNat) / 256) = second :=
      hoctet (by omega)
    simp only [unit, unitBytes, hlow, hhigh]
  | bigEndian =>
    have hlow : UInt8.ofNat ((first.toNat * 256 + second.toNat) % 256) = second := hoctet (by omega)
    have hhigh : UInt8.ofNat ((first.toNat * 256 + second.toNat) / 256) = first :=
      hoctet (by omega)
    simp only [unit, unitBytes, hlow, hhigh]

/-- Whole units are all of the bytes. -/
theorem flatMap_unitBytes_units {bytes : Bytes} (h : bytes.length % 2 = 0) :
    (units order bytes).flatMap (unitBytes order) = bytes := by
  fun_induction units order bytes with
  | case1 first second rest ih =>
    have hrest : rest.length % 2 = 0 := (Nat.add_mod_right rest.length 2).symm.trans h
    rw [List.flatMap_cons, unitBytes_unit, ih hrest]
    rfl
  | case2 bytes hshort =>
    match bytes, hshort with
    | [], _ => rfl
    | [_], _ => cases h
    | first :: second :: rest, hshort => exact absurd rfl (hshort first second rest)

/-- Units are found again in their bytes, of which there are two for each. -/
theorem units_flatMap_unitBytes {us : List Nat} (h : ∀ u ∈ us, u < 0x10000) :
    units order (us.flatMap (unitBytes order)) = us ∧
      (us.flatMap (unitBytes order)).length % 2 = 0 := by
  induction us with
  | nil => exact ⟨by rw [List.flatMap_nil, units]; exact nofun, rfl⟩
  | cons u us ih =>
    obtain ⟨hu, hrest⟩ := List.forall_mem_cons.mp h
    obtain ⟨hunits, heven⟩ := ih hrest
    obtain ⟨first, second, hbytes, hunit⟩ := exists_unitBytes_eq order hu
    rw [List.flatMap_cons, hbytes, List.cons_append, List.singleton_append, units, hunit, hunits]
    exact ⟨rfl, (Nat.add_mod_right _ 2).trans heven⟩

theorem encode_eq (order : ByteOrder) (text : Text) :
    encode order text = (text.flatMap unitsOf).flatMap (unitBytes order) :=
  List.flatMap_assoc.symm

/-- **The byte strings of whole units with paired surrogates are those that texts are written
as.** -/
theorem isWellFormed_iff {bytes : Bytes} :
    IsWellFormed order bytes ↔ ∃ text, encode order text = bytes := by
  constructor
  · rintro ⟨heven, hpaired⟩
    obtain ⟨text, htext⟩ := hpaired.exists_text (lt_of_mem_units bytes)
    refine ⟨text, ?_⟩
    rw [encode_eq, htext, flatMap_unitBytes_units heven]
  · rintro ⟨text, rfl⟩
    have hunits : ∀ u ∈ text.flatMap unitsOf, u < 0x10000 := fun u hu =>
      have ⟨_, _, hmem⟩ := List.mem_flatMap.mp hu
      lt_of_mem_unitsOf u hmem
    obtain ⟨hfound, heven⟩ := @units_flatMap_unitBytes order _ hunits
    rw [encode_eq]
    refine ⟨heven, ?_⟩
    rw [hfound]
    exact isPaired_flatMap_unitsOf text

/-- **Bytes are those of the text that is read from them exactly if they are whole units with
paired surrogates.** -/
theorem encode_decode_eq_iff {bytes : Bytes} :
    encode order (decode order bytes) = bytes ↔ IsWellFormed order bytes := by
  rw [isWellFormed_iff]
  constructor
  · intro h
    exact ⟨_, h⟩
  · rintro ⟨text, rfl⟩
    rw [decode_encode]

instance (order : ByteOrder) (bytes : Bytes) : Decidable (IsWellFormed order bytes) :=
  decidable_of_iff _ encode_decode_eq_iff

/-- A pair, the same in the wrong order, and an octet too many. -/
example : IsWellFormed .littleEndian [0x3D, 0xD8, 0x00, 0xDE] ∧
    ¬ IsWellFormed .littleEndian [0x00, 0xDE, 0x3D, 0xD8] ∧
    ¬ IsWellFormed .bigEndian [0x00, 0x61, 0x00] := by decide

end Utf16
end OutboundHttp
