import OutboundHttp.Proofs.Response.Content
import OutboundHttp.Proofs.Text.WellFormed

/-!
# The data of a response

Bytes are read as text without ever failing, so not all of them can be told from the text.  Read
and written again they are the same exactly if they are well formed in the charset of the response
(`encode_decode_iff`): the encodings of Unicode have rules for their bytes, a charset of single
octets takes all bytes but those that stand for no character, and the charset that must not be
decoded hardly any.  What a charset of several octets takes is left to its tables.
-/
namespace OutboundHttp

/-- The octets of a charset that stand for no character.  Most charsets have none. -/
def SingleOctet.gaps : SingleOctet → List UInt8
  | isoLatin3 => [0xA5, 0xAE, 0xBE, 0xC3, 0xD0, 0xE3, 0xF0]
  | isoArabic => [0xA1, 0xA2, 0xA3, 0xA5, 0xA6, 0xA7, 0xA8, 0xA9, 0xAA, 0xAB, 0xAE, 0xAF, 0xB0,
      0xB1, 0xB2, 0xB3, 0xB4, 0xB5, 0xB6, 0xB7, 0xB8, 0xB9, 0xBA, 0xBC, 0xBD, 0xBE, 0xC0, 0xDB,
      0xDC, 0xDD, 0xDE, 0xDF, 0xF3, 0xF4, 0xF5, 0xF6, 0xF7, 0xF8, 0xF9, 0xFA, 0xFB, 0xFC, 0xFD,
      0xFE, 0xFF]
  | isoGreek => [0xAE, 0xD2, 0xFF]
  | isoHebrew | isoHebrewLogical => [0xA1, 0xBF, 0xC0, 0xC1, 0xC2, 0xC3, 0xC4, 0xC5, 0xC6, 0xC7,
      0xC8, 0xC9, 0xCA, 0xCB, 0xCC, 0xCD, 0xCE, 0xCF, 0xD0, 0xD1, 0xD2, 0xD3, 0xD4, 0xD5, 0xD6,
      0xD7, 0xD8, 0xD9, 0xDA, 0xDB, 0xDC, 0xDD, 0xDE, 0xFB, 0xFC, 0xFF]
  | windows874 => [0xDB, 0xDC, 0xDD, 0xDE, 0xFC, 0xFD, 0xFE, 0xFF]
  | windows1253 => [0xAA, 0xD2, 0xFF]
  | windows1255 => [0xD9, 0xDA, 0xDB, 0xDC, 0xDD, 0xDE, 0xDF, 0xFB, 0xFC, 0xFF]
  | windows1257 => [0xA1, 0xA5]
  | _ => []

namespace Charset

/-! ## Gaps -/

/-- The octets that have no character in a table. -/
def gapsOf (table : List Nat) : List UInt8 :=
  ((table.zipIdx 0x80).filter (·.1 = 0xFFFD)).map fun entry => UInt8.ofNat entry.2

theorem gapsOf_upper (set : SingleOctet) : gapsOf set.upper = set.gaps := by
  cases set <;> decide +kernel

/-- An octet is a gap if the replacement character has its place in the table. -/
theorem mem_gapsOf_iff {table : List Nat} (htable : IsUpperHalf table) {b : UInt8} :
    b ∈ gapsOf table ↔ 0x80 ≤ b.toNat ∧ table[b.toNat - 0x80]? = some 0xFFFD := by
  have hentry (octet : Nat) : (0xFFFD, octet) ∈ table.zipIdx 0x80 ↔
      0x80 ≤ octet ∧ table[octet - 0x80]? = some 0xFFFD :=
    List.mk_mem_zipIdx_iff_le_and_getElem?_sub
  rw [← hentry]
  constructor
  · intro h
    obtain ⟨⟨n, octet⟩, hmem, rfl⟩ := List.mem_map.mp h
    obtain ⟨hmem, hgap⟩ := List.mem_filter.mp hmem
    obtain rfl : n = 0xFFFD := of_decide_eq_true hgap
    obtain ⟨hlt, -⟩ := List.getElem?_eq_some_iff.mp ((hentry octet).mp hmem).2
    rw [htable.length] at hlt
    have hoctet : (UInt8.ofNat octet).toNat = octet :=
      UInt8.toNat_ofNat_of_lt' (show octet < 256 by omega)
    rwa [hoctet]
  · intro h
    exact List.mem_map.mpr ⟨_, List.mem_filter.mpr ⟨h, decide_eq_true rfl⟩, UInt8.ofNat_toNat⟩

/-- The octets that stand for no character are read as the replacement character, and no others. -/
theorem charOfByte_eq_replacement_iff {table : List Nat} (htable : IsUpperHalf table) {b : UInt8} :
    charOfByte table b = Utf8.replacement ↔
      0x80 ≤ b.toNat ∧ table[b.toNat - 0x80]? = some 0xFFFD := by
  rw [← Char.toNat_inj]
  by_cases hb : b.toNat < 0x80
  · have hlow : b.toNat ≠ Utf8.replacement.toNat := fun heq => absurd (heq ▸ hb) (by decide)
    rw [toNat_charOfByte_of_lt table hb]
    exact iff_of_false hlow fun h => Nat.not_lt.mpr h.1 hb
  · obtain ⟨hlt, hnumber⟩ := exists_toNat_charOfByte htable hb
    rw [hnumber, List.getElem?_eq_getElem hlt, Option.some.injEq]
    exact (and_iff_right (Nat.not_lt.mp hb)).symm

theorem mem_gaps_iff {set : SingleOctet} {b : UInt8} :
    b ∈ set.gaps ↔ charOfByte set.upper b = Utf8.replacement := by
  rw [← gapsOf_upper, mem_gapsOf_iff (isUpperHalf set),
    charOfByte_eq_replacement_iff (isUpperHalf set)]

/-! ## Well-formed bytes -/

variable [MultiOctet.Codec]

/-- The bytes are well formed in a charset. -/
def IsWellFormed : Charset → Bytes → Prop
  | utf8, bytes => Utf8.IsWellFormed bytes
  | utf16LittleEndian, bytes => Utf16.IsWellFormed .littleEndian bytes
  | utf16BigEndian, bytes => Utf16.IsWellFormed .bigEndian bytes
  | singleOctet set, bytes => ∀ b ∈ bytes, b ∉ set.gaps
  | multiOctet set, bytes =>
    MultiOctet.Codec.encode set (MultiOctet.Codec.decode set bytes) = bytes
  | replacement, bytes => bytes = [] ∨ bytes = [0xEF, 0xBF, 0xBD]

theorem encode_decode_singleOctet (set : SingleOctet) (bytes : Bytes) :
    (singleOctet set).encode ((singleOctet set).decode bytes) = bytes ↔
      ∀ b ∈ bytes, b ∉ set.gaps := by
  have hgap (b : UInt8) : charOfByte set.upper b ≠ Utf8.replacement ↔ b ∉ set.gaps :=
    not_congr mem_gaps_iff.symm
  simp only [← hgap]
  exact flatMap_bytesOfChar_map_iff (isUpperHalf set) (nodup_upper set) bytes

theorem encode_decode_replacement (bytes : Bytes) :
    replacement.encode (replacement.decode bytes) = bytes ↔
      bytes = [] ∨ bytes = [0xEF, 0xBF, 0xBD] := by
  have hsign : Utf8.encode [Utf8.replacement] = [0xEF, 0xBF, 0xBD] := by decide
  by_cases hnil : bytes = []
  · simp [hnil, decode, encode]
  · have hempty : bytes.isEmpty = false := by simpa using hnil
    simp [decode, encode, hempty, hnil, hsign, eq_comm]

/-- **Well-formed bytes are what is written as it was read.** -/
theorem encode_decode_iff (charset : Charset) (bytes : Bytes) :
    charset.encode (charset.decode bytes) = bytes ↔ charset.IsWellFormed bytes := by
  cases charset with
  | utf8 => exact Utf8.encode_decodeLossy_eq_iff
  | utf16LittleEndian => exact Utf16.encode_decode_eq_iff
  | utf16BigEndian => exact Utf16.encode_decode_eq_iff
  | singleOctet set => exact encode_decode_singleOctet set bytes
  | multiOctet set => exact Iff.rfl
  | replacement => exact encode_decode_replacement bytes

end Charset

namespace Response

/-- **Bytes survive in a response exactly if they are well formed in the charset that its headers
name.**  Make a response from bytes, and another one from the headers of the first and its content.
The data of the second are the bytes exactly if these are well formed in the charset; if the headers
name none, exactly if they are UTF-8. -/
theorem data_ofText_ofBytes [MultiOctet.Codec] (request request' : Request) (headers : HeaderLines)
    (bytes : Bytes) (status status' : Status) (version version' : HttpVersion) :
    let read := ofBytes request headers bytes status version
    let written := ofText request' read.headers read.content status' version'
    (∀ charset, headers.Names charset → (written.data = bytes ↔ charset.IsWellFormed bytes)) ∧
      ((∀ charset, ¬ headers.Names charset) →
        (written.data = bytes ↔ Utf8.IsWellFormed bytes)) := by
  intro read written
  have hiff : written.data = bytes ↔ headers.charset.IsWellFormed bytes :=
    Charset.encode_decode_iff headers.charset bytes
  refine ⟨fun charset hnames => ?_, fun hnone => ?_⟩
  · rw [hiff, HeaderLines.charset_of_names hnames]
  · rw [hiff, HeaderLines.charset_of_not_names hnone]
    rfl

/-- Greek letters survive, but not an octet that stands for none. -/
theorem data_ofText_ofBytes_greek :
    let headers : HeaderLines := [("content-type", Utf8.encode "text/plain; charset=\"CP1253\"")]
    headers.Names (.singleOctet .windows1253) ∧
      ∀ [MultiOctet.Codec] request status version,
        let rewritten (bytes : Bytes) := (ofText request headers
          (ofBytes request headers bytes status version).content status version).data
        rewritten [0xC1, 0xE1] = [0xC1, 0xE1] ∧ rewritten [0xC1, 0xAA] ≠ [0xC1, 0xAA] := by
  intro headers
  have htype : headers.contentType? = some ("text/plain; charset=\"CP1253\"" : Text) := by decide
  have hpiece : ContentType.markedPiece? "text/plain; charset=\"CP1253\"" =
      some (" charset=\"CP1253\"" : Text) := by decide
  have hnames : headers.Names (.singleOctet .windows1253) :=
    ⟨_, _, HeaderLines.contentType?_eq_some_iff.mp htype, hpiece, "cp1253",
      show _ ∈ SingleOctet.windows1253.labels by decide, by decide⟩
  refine ⟨hnames, fun request status version => ?_⟩
  have hlaw (bytes : Bytes) :=
    (data_ofText_ofBytes request request headers bytes status status version version).1 _ hnames
  refine ⟨(hlaw [0xC1, 0xE1]).mpr ?_, fun heq => ?_⟩
  · simp [Charset.IsWellFormed, SingleOctet.gaps]
  · have hgap := (hlaw [0xC1, 0xAA]).mp heq 0xAA (by decide)
    exact hgap (by decide)

end Response
end OutboundHttp
