import Mathlib.Data.List.Forall2
import OutboundHttp.Proofs.Form.Multipart

/-!
# Texts that break out of their header line

Names, file names and content types stand in the header lines of a multipart form as they are.
Quotation marks, single carriage returns and line feeds, and even the boundary do no harm to a
reader of lines there, but the two octets of a line break do: a part is found with the header
block that it should have exactly if there is no line break in its texts
(`readRaws?_encode_iff`).
-/
namespace OutboundHttp
namespace Multipart

open Text Uri Delimited ReadPart

variable {boundary : Text} {part : FormPart} {parts : List FormPart}

/-- The texts that callers put into the header lines of a part. -/
def headerTexts (part : FormPart) : List Text :=
  [part.name, part.filename, part.contentType].filterMap sent?

/-- The names of the header lines that a part should have. -/
def headerNames (part : FormPart) : List Text :=
  ("Content-Disposition: " : Text) ::
    if isBlank part.contentType then [] else [("Content-Type: " : Text)]

/-- The part was read with the header lines that it should have, and with its payload. -/
structure IsReadAs (part : FormPart) (raw : RawPart) : Prop where
  lines : List.Forall₂ (· <+: ·) (headerNames part) raw.lines
  payload : raw.payload = part.payload

/-! ## Line breaks in header lines -/

theorem lineEnd_infix_encode_iff {text : Text} :
    lineEnd <:+: Utf8.encode text ↔ ("\r\n" : Text) <:+: text := by
  have hreturn : 0x0D < 0x80 := by decide
  exact @Utf8.encode_infix_encode_iff 0x0D hreturn ['\n'] text

/-- A line break does not begin in a fixed text and end in what stands behind it. -/
theorem break_infix_append_iff {fixed : Text} (h : '\r' ∉ fixed) (text : Text) :
    ("\r\n" : Text) <:+: fixed ++ text ↔ ("\r\n" : Text) <:+: text := by
  constructor
  · intro hbreak
    exact infix_of_infix_append h hbreak
  · intro hbreak
    exact hbreak.trans (List.suffix_append fixed text).isInfix

theorem not_break_infix_parameter_append_iff {label value rest : Text} (hlabel : '\r' ∉ label) :
    ¬ ("\r\n" : Text) <:+: parameter label value ++ rest ↔
      (∀ text ∈ sent? value, ¬ ("\r\n" : Text) <:+: text) ∧ ¬ ("\r\n" : Text) <:+: rest := by
  rw [parameter, sent?]
  split
  · simp
  · have htext : ("; " : Text) ++ label ++ ("=\"" : Text) ++ value ++ ['"'] ++ rest =
        (("; " : Text) ++ label ++ ("=\"" : Text)) ++ (value ++ '"' :: rest) := by
      simp
    have hfixed : '\r' ∉ ("; " : Text) ++ label ++ ("=\"" : Text) := by
      simp [hlabel]
    have hquote : '"' ∉ ("\r\n" : Text) := by decide
    rw [htext, break_infix_append_iff hfixed, infix_append_cons_iff hquote, not_or]
    simp

theorem not_break_infix_dispositionLine_iff (part : FormPart) :
    ¬ ("\r\n" : Text) <:+: dispositionLine part ↔
      (∀ text ∈ sent? part.name, ¬ ("\r\n" : Text) <:+: text) ∧
        ∀ text ∈ sent? part.filename, ¬ ("\r\n" : Text) <:+: text := by
  have hfixed : '\r' ∉ ("Content-Disposition: form-data" : Text) := by decide
  have hname : '\r' ∉ ("name" : Text) := by decide
  have hfilename : '\r' ∉ ("filename" : Text) := by decide
  have hend := @not_break_infix_parameter_append_iff _ part.filename [] hfilename
  rw [List.append_nil] at hend
  rw [dispositionLine_eq, break_infix_append_iff hfixed,
    not_break_infix_parameter_append_iff hname, hend]
  simp

theorem forall_mem_typeLine?_iff (part : FormPart) :
    (∀ text ∈ (typeLine? part).toList, ¬ ("\r\n" : Text) <:+: text) ↔
      ∀ text ∈ sent? part.contentType, ¬ ("\r\n" : Text) <:+: text := by
  have hfixed : '\r' ∉ ("Content-Type: " : Text) := by decide
  rw [typeLine?_eq]
  cases sent? part.contentType with
  | none => simp
  | some contentType =>
    have hiff := break_infix_append_iff hfixed contentType
    simpa using not_congr hiff

/-- **A header line has a line break in it exactly if a text that was put there has one.** -/
theorem forall_mem_headerLines_iff (part : FormPart) :
    (∀ text ∈ headerLines part, ¬ ("\r\n" : Text) <:+: text) ↔
      ∀ text ∈ headerTexts part, ¬ ("\r\n" : Text) <:+: text := by
  rw [headerLines, List.forall_mem_cons, not_break_infix_dispositionLine_iff,
    forall_mem_typeLine?_iff]
  simp [headerTexts, or_imp, forall_and, and_assoc]

theorem isUnbroken_ofPart_iff (part : FormPart) :
    (RawPart.ofPart part).IsUnbroken ↔
      ∀ text ∈ headerTexts part, ¬ ("\r\n" : Text) <:+: text := by
  rw [← forall_mem_headerLines_iff]
  exact forall₂_congr fun text _ => not_congr lineEnd_infix_encode_iff

/-! ## What is read -/

theorem isReadAs_ofPart (part : FormPart) : IsReadAs part (RawPart.ofPart part) where
  lines := by
    show List.Forall₂ (· <+: ·) (headerNames part) (headerLines part)
    have hname :
        ("Content-Disposition: " : Text) <+: ("Content-Disposition: form-data" : Text) := by
      decide
    have hdisposition : ("Content-Disposition: " : Text) <+: dispositionLine part := by
      rw [dispositionLine_eq]
      exact hname.trans (List.prefix_append _ _)
    refine List.Forall₂.cons hdisposition ?_
    rw [typeLine?_eq, sent?]
    split
    · exact List.Forall₂.nil
    · exact List.Forall₂.cons (List.prefix_append _ _) List.Forall₂.nil
  payload := rfl

/-- A delimiter in a payload, or at its beginning, has the boundary in it. -/
theorem not_delimiter_infix_of_not_infix {payload : Bytes}
    (h : ¬ Utf8.encode boundary <:+: payload) : ¬ delimiter boundary <:+: lineEnd ++ payload := by
  have hboundary : Utf8.encode boundary <:+: delimiter boundary :=
    (List.suffix_append [0x0D, 0x0A, 0x2D, 0x2D] (Utf8.encode boundary)).isInfix
  intro hoccurs
  rcases delimiter_infix_lineEnd_append_iff.mp hoccurs with hstart | hbehind
  · exact h ((List.suffix_append _ _).isInfix.trans hstart.isInfix)
  · exact h (hboundary.trans hbehind)

/-- **Parts without a line break in their texts are read line by line as they were written.** -/
theorem readRaws?_body (hboundary : NoBreak boundary)
    (hpayloads : ∀ part ∈ parts, ¬ Utf8.encode boundary <:+: part.payload)
    (htexts : ∀ part ∈ parts, ∀ text ∈ headerTexts part, ¬ ("\r\n" : Text) <:+: text) :
    readRaws? boundary (body boundary parts) = some (parts.map RawPart.ofPart) := by
  rw [body_eq_bodyOf]
  refine readRaws?_bodyOf hboundary (List.forall_mem_map.mpr fun part hpart => ?_)
  have hunbroken := (isUnbroken_ofPart_iff part).mpr (htexts part hpart)
  exact {
    lines := fun text hmem => isHeaderLine_of_mem hmem (hunbroken text hmem)
    payload := not_delimiter_infix_of_not_infix (hpayloads part hpart) }

theorem length_lines_of_isReadAs {raw : RawPart} (h : IsReadAs part raw) :
    raw.lines.length = (headerLines part).length :=
  h.lines.length_eq.symm.trans (isReadAs_ofPart part).lines.length_eq

/-- Parts that are read with the right headers have as many lines and the payloads of these. -/
theorem lines_and_payloads_of_forall₂ {raws : List RawPart} (h : List.Forall₂ IsReadAs parts raws) :
    ((parts.map RawPart.ofPart).flatMap RawPart.lines).length =
        (raws.flatMap RawPart.lines).length ∧
      (parts.map RawPart.ofPart).map RawPart.payload = raws.map RawPart.payload := by
  induction h with
  | nil => exact ⟨rfl, rfl⟩
  | cons hpart _ ih =>
    obtain ⟨hlines, hpayloads⟩ := ih
    simp only [List.map_cons, List.flatMap_cons, List.length_append, hlines, hpayloads,
      length_lines_of_isReadAs hpart, hpart.payload]
    exact ⟨rfl, rfl⟩

/-- **A line break is all that lets a text break out of its header line, and it always does.**
If the boundary is one line and no payload has it in it, then the parts of a form are found
at the delimiters of its body, each with a line that names it, with one that names its type
exactly if it has one that is not blank, and with its payload behind the first empty line,
exactly if there is no line break in a name, in a file name or in a content type that is
not blank. -/
theorem readRaws?_encode_iff (hboundary : NoBreak boundary)
    (hpayloads : ∀ part ∈ parts, ¬ Utf8.encode boundary <:+: part.payload) :
    (∃ raws, readRaws? boundary (encode boundary parts).body = some raws ∧
        List.Forall₂ IsReadAs parts raws) ↔
      ∀ part ∈ parts, ∀ text ∈ headerTexts part, ¬ ("\r\n" : Text) <:+: text := by
  have hencode : (encode boundary parts).body = body boundary parts := rfl
  rw [hencode]
  constructor
  · rintro ⟨raws, hread, hraws⟩
    rw [body_eq_bodyOf] at hread
    have hstart := delimiter_prefix_bodyOf boundary (parts.map RawPart.ofPart)
    obtain ⟨hbody, hunbroken⟩ := eq_bodyOf_of_readRaws? hboundary hstart hread
    obtain ⟨hlines, hpayloads⟩ := lines_and_payloads_of_forall₂ hraws
    have hall := isUnbroken_of_bodyOf_eq hbody hpayloads hlines hunbroken
    intro part hpart
    exact (isUnbroken_ofPart_iff part).mp (hall _ (List.mem_map_of_mem hpart))
  · intro htexts
    refine ⟨_, readRaws?_body hboundary hpayloads htexts, ?_⟩
    rw [List.forall₂_map_right_iff]
    exact List.forall₂_same.mpr fun part _ => isReadAs_ofPart part

/-- A quotation mark in a name, the boundary in the name of a file, and a blank line that is
not sent as the name of another. -/
theorem readRaws?_encode_iff_quoted :
    ∃ raws, readRaws? "B" (encode "B" [.file "a\"; x=\"" "--B" "t/x" [0x0D, 0x0A, 0x0D, 0x0A],
        .file "b\n" "\r\n" "" []]).body = some raws ∧
      List.Forall₂ IsReadAs [.file "a\"; x=\"" "--B" "t/x" [0x0D, 0x0A, 0x0D, 0x0A],
        .file "b\n" "\r\n" "" []] raws :=
  (readRaws?_encode_iff (by decide) (by decide)).mpr (by decide +kernel)

/-- A value under a name that goes on behind a line break. -/
def brokenPart : FormPart :=
  .value "a\r\nX: y" [0x76]

/-- What is found of it: the name has come to be two header lines. -/
def brokenRaw : RawPart where
  lines := ["Content-Disposition: form-data; name=\"a", "X: y\""]
  payload := [0x76]

/-- The name of a part adds a header line to it. -/
theorem readRaws?_encode_of_break :
    (NoBreak "B" ∧ ¬ Utf8.encode "B" <:+: brokenPart.payload ∧
      ∀ text ∈ headerTexts brokenPart, ¬ ("B" : Text) <:+: text) ∧
    readRaws? "B" (encode "B" [brokenPart]).body = some [brokenRaw] ∧
    ¬ ∃ raws, readRaws? "B" (encode "B" [brokenPart]).body = some raws ∧
      List.Forall₂ IsReadAs [brokenPart] raws := by
  have hfree : NoBreak "B" ∧ ¬ Utf8.encode "B" <:+: brokenPart.payload ∧
      ∀ text ∈ headerTexts brokenPart, ¬ ("B" : Text) <:+: text := by
    decide +kernel
  have hbody : (encode "B" [brokenPart]).body = bodyOf "B" [brokenRaw] := by
    decide +kernel
  have hread : readRaws? "B" (encode "B" [brokenPart]).body = some [brokenRaw] := by
    have hfirst : IsHeaderLine "Content-Disposition: form-data; name=\"a" :=
      ⟨by decide, by decide, by decide +kernel⟩
    have hsecond : IsHeaderLine "X: y\"" :=
      ⟨by decide, by decide, by decide⟩
    have hlines := List.forall_mem_cons.mpr ⟨hfirst, List.forall_mem_singleton.mpr hsecond⟩
    have hsendable : brokenRaw.IsSendable "B" := ⟨hlines, by decide⟩
    rw [hbody]
    exact readRaws?_bodyOf (by decide) (List.forall_mem_singleton.mpr hsendable)
  refine ⟨hfree, hread, ?_⟩
  rintro ⟨raws, hraws, hall⟩
  obtain rfl := Option.some.inj (hread.symm.trans hraws)
  have hlength := length_lines_of_isReadAs (List.forall₂_cons.mp hall).1
  exact absurd hlength (by decide)

end Multipart
end OutboundHttp
