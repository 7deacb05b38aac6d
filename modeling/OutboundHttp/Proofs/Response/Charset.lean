import OutboundHttp.Proofs.Request.Header
import OutboundHttp.Proofs.Response.ContentType

/-!
# The charset that headers name

Headers name a charset if one of its labels stands behind the first mark in their first content
type (`Names`).  It is then the charset of the response (`charset_of_names`); if they name none,
this is UTF-8 (`charset_of_not_names`).
-/
namespace OutboundHttp
namespace HeaderLines

open Text ContentType

variable {headers : HeaderLines} {contentType : Text} {charset : Charset}

/-! ## The content type -/

/-- The first content type of the headers is plain text, and this is it. -/
structure HasContentType (headers : HeaderLines) (contentType : Text) : Prop where
  isFirst : ∃ before after, headers = before ++ ("content-type".toList, Utf8.encode contentType) ::
    after ∧ ∀ line ∈ before, line.1 ≠ "content-type".toList
  isPlain : ∀ c ∈ contentType, Header.IsPlainChar c

theorem head?_values (headers : HeaderLines) (name : Text) :
    (headers.values name).head? = (headers.find? (·.1 == name)).map Prod.snd := by
  rw [values, List.head?_map, List.head?_filter]

theorem contentType?_eq_some_iff :
    headers.contentType? = some contentType ↔ headers.HasContentType contentType := by
  rw [contentType?, head?_values, Option.bind_eq_some_iff]
  constructor
  · rintro ⟨value, hvalue, hread⟩
    obtain ⟨hencode, hplain⟩ := Header.plainText?_eq_some_iff.mp hread
    obtain ⟨⟨name, octets⟩, hfound, heq⟩ := Option.map_eq_some_iff.mp hvalue
    obtain ⟨hname, before, after, hheaders, hbefore⟩ := List.find?_eq_some_iff_append.mp hfound
    obtain rfl : octets = Utf8.encode contentType := heq.trans hencode
    obtain rfl : name = "content-type".toList := beq_iff_eq.mp hname
    exact ⟨⟨before, after, hheaders, fun line hline => by simpa using hbefore line hline⟩, hplain⟩
  · rintro ⟨⟨before, after, hheaders, hbefore⟩, hplain⟩
    have hfound : headers.find? (·.1 == "content-type".toList) =
        some ("content-type".toList, Utf8.encode contentType) :=
      List.find?_eq_some_iff_append.mpr ⟨beq_self_eq_true _, before, after, hheaders,
        fun line hline => by simpa using hbefore line hline⟩
    exact ⟨_, Option.map_eq_some_iff.mpr ⟨_, hfound, rfl⟩,
      Header.plainText?_eq_some_iff.mpr ⟨rfl, hplain⟩⟩

/-! ## The charset -/

/-- **The headers name a charset:** one of its labels, in any case, stands behind the first mark in
their first content type. -/
def Names (headers : HeaderLines) (charset : Charset) : Prop :=
  ∃ contentType piece, headers.HasContentType contentType ∧
    markedPiece? contentType = some piece ∧
    ∃ known ∈ charset.labels, lowerAscii (markedLabel piece) = known.toList

/-- The charset of a label that stands behind a mark. -/
theorem ofLabel?_markedLabel_iff {piece : Text} :
    Charset.ofLabel? (markedLabel piece) = some charset ↔
      ∃ known ∈ charset.labels, lowerAscii (markedLabel piece) = known.toList := by
  rw [Charset.ofLabel?_eq_some_iff, trim_markedLabel]
  simp only [eq_comm]

theorem names_iff :
    headers.Names charset ↔
      (headers.contentType?.bind charsetLabel?).bind Charset.ofLabel? = some charset := by
  simp only [Option.bind_eq_some_iff, contentType?_eq_some_iff, charsetLabel?_eq_some_iff]
  constructor
  · rintro ⟨contentType, piece, htype, hpiece, hknown⟩
    have hcharset := ofLabel?_markedLabel_iff.mpr hknown
    have hne : markedLabel piece ≠ [] := by
      intro hnil
      rw [hnil, Charset.ofLabel?_nil] at hcharset
      cases hcharset
    exact ⟨_, ⟨contentType, htype, hne, piece, hpiece, rfl⟩, hcharset⟩
  · rintro ⟨_, ⟨contentType, htype, -, piece, hpiece, rfl⟩, hcharset⟩
    exact ⟨contentType, piece, htype, hpiece, ofLabel?_markedLabel_iff.mp hcharset⟩

/-- **The charset of the headers** is the one that they name. -/
theorem charset_of_names (h : headers.Names charset) : headers.charset = charset := by
  rw [HeaderLines.charset, names_iff.mp h]
  rfl

theorem charset_of_not_names (h : ∀ charset, ¬ headers.Names charset) :
    headers.charset = .utf8 := by
  have hnone : (headers.contentType?.bind charsetLabel?).bind Charset.ofLabel? = none :=
    Option.eq_none_iff_forall_ne_some.mpr fun charset hcharset =>
      h charset (names_iff.mpr hcharset)
  rw [HeaderLines.charset, hnone]
  rfl

/-- The charset of the headers: the one that they name, or UTF-8 if they name none. -/
def HasCharset (headers : HeaderLines) (charset : Charset) : Prop :=
  headers.Names charset ∨ charset = .utf8 ∧ ∀ other, ¬ headers.Names other

theorem charset_eq_iff : headers.charset = charset ↔ headers.HasCharset charset := by
  constructor
  · rintro rfl
    by_cases hnames : ∃ charset, headers.Names charset
    · obtain ⟨charset, hcharset⟩ := hnames
      exact Or.inl (charset_of_names hcharset ▸ hcharset)
    · have hnone := not_exists.mp hnames
      exact Or.inr ⟨charset_of_not_names hnone, hnone⟩
  · rintro (hnames | ⟨rfl, hnone⟩)
    · exact charset_of_names hnames
    · exact charset_of_not_names hnone

end HeaderLines
end OutboundHttp
