import OutboundHttp.Proofs.Form.Heads

/-!
# Multipart forms are read as they were written

Behind a line break, the body of a form is a row of delimiters, each with a piece behind it
(`pieces_append_body`): no header line can begin a delimiter, and a payload is free of it by
assumption.  Each piece is read as the part that it was written for (`readPart?_piece`), so
the reader finds the parts of the form again, whatever bytes they carry (`read?_encode`).
-/
namespace OutboundHttp

open Text Uri

namespace FormPart

/-- The name of the file in a part; a plain value has none. -/
def filename : FormPart → Text
  | value .. => []
  | file _ filename _ _ => filename

/-- The type of the file in a part; a plain value has none. -/
def contentType : FormPart → Text
  | value .. => []
  | file _ _ contentType _ => contentType

end FormPart

namespace ReadPart

/-- A text that is sent unless it is blank. -/
def sent? (text : Text) : Option Text :=
  if isBlank text then none else some text

/-- What is sent of a part. -/
def ofPart (part : FormPart) : ReadPart where
  name := sent? part.name
  filename := sent? part.filename
  contentType := sent? part.contentType
  payload := part.payload

end ReadPart

namespace Multipart

open Delimited ReadPart

variable {boundary : Text} {part : FormPart} {parts : List FormPart}

/-- The text can stand between quotation marks in a header line. -/
def IsQuotable (text : Text) : Prop :=
  '"' ∉ text ∧ NoBreak text

instance (text : Text) : Decidable (IsQuotable text) :=
  inferInstanceAs (Decidable (_ ∧ _))

/-- Nothing in the part looks like something that stands around it. -/
structure Sendable (boundary : Text) (part : FormPart) : Prop where
  name : IsQuotable part.name
  filename : IsQuotable part.filename
  contentType : NoBreak part.contentType
  payload : ¬ delimiter boundary <:+: lineEnd ++ part.payload

/-! ## Header lines -/

theorem dispositionLine_eq (part : FormPart) :
    dispositionLine part = ("Content-Disposition: form-data" : Text) ++
      (parameter "name" part.name ++ parameter "filename" part.filename) := by
  cases part with
  | value name bytes => exact List.append_assoc _ _ _
  | file name filename contentType data => exact List.append_assoc _ _ _

theorem typeLine?_eq (part : FormPart) :
    typeLine? part = (sent? part.contentType).map (("Content-Type: " : Text) ++ ·) := by
  cases part with
  | value name bytes => rfl
  | file name filename contentType data =>
    rw [typeLine?, sent?]
    split <;> rename_i hblank <;> simp [FormPart.contentType, hblank]

theorem noBreak_parameter {label value : Text} (hlabel : NoBreak label) (hvalue : NoBreak value) :
    NoBreak (parameter label value) := by
  rw [parameter]
  split
  · exact noBreak_nil
  · simp only [noBreak_append, hlabel, hvalue, and_true]
    decide

theorem head?_of_mem_headerLines {text : Text} (h : text ∈ headerLines part) :
    text.head? = some 'C' := by
  rcases List.mem_cons.mp h with rfl | h
  · rw [dispositionLine_eq]
    rfl
  · rw [typeLine?_eq, Option.mem_toList, Option.map_eq_some_iff] at h
    obtain ⟨contentType, -, rfl⟩ := h
    rfl

/-- A header line begins with a letter, so only a line break in it could mislead a reader. -/
theorem isHeaderLine_of_mem {text : Text} (hmem : text ∈ headerLines part)
    (hunbroken : ¬ lineEnd <:+: Utf8.encode text) : IsHeaderLine text where
  ne_nil := by
    rintro rfl
    cases head?_of_mem_headerLines hmem
  head := by
    rw [head?_of_mem_headerLines hmem]
    decide
  unbroken := hunbroken

theorem noBreak_of_mem_headerLines (h : Sendable boundary part) :
    ∀ text ∈ headerLines part, NoBreak text := by
  intro text hmem
  rcases List.mem_cons.mp hmem with rfl | hmem
  · rw [dispositionLine_eq]
    refine noBreak_append.mpr ⟨by decide, noBreak_append.mpr ⟨?_, ?_⟩⟩
    · exact noBreak_parameter (by decide) h.name.2
    · exact noBreak_parameter (by decide) h.filename.2
  · rw [typeLine?_eq, Option.mem_toList, Option.map_eq_some_iff] at hmem
    obtain ⟨contentType, hsent, rfl⟩ := hmem
    have heq : part.contentType = contentType := by
      rw [sent?] at hsent
      split at hsent
      · cases hsent
      · exact Option.some.inj hsent
    exact noBreak_append.mpr ⟨by decide, heq ▸ h.contentType⟩

/-- A parameter is read before those behind it. -/
theorem readParameters?_parameter_append {label value : Text} (hlabel : '"' ∉ label)
    (hvalue : '"' ∉ value) (rest : Text) :
    readParameters? (splitOn '"' (parameter label value ++ rest)) =
      (readParameters? (splitOn '"' rest)).map
        ((sent? value).toList.map (("; " : Text) ++ label ++ ("=" : Text), ·) ++ ·) := by
  rw [parameter, sent?]
  split
  · simp
  · have htext : ("; " : Text) ++ label ++ ("=\"" : Text) ++ value ++ ['"'] ++ rest =
        (("; " : Text) ++ label ++ ("=" : Text)) ++ '"' :: (value ++ '"' :: rest) := by
      simp
    have hquote : '"' ∉ ("; " : Text) ++ label ++ ("=" : Text) := by
      simp [hlabel]
    rw [htext, splitOn_append_cons, splitOn_append_cons, splitOn_of_not_mem hquote,
      splitOn_of_not_mem hvalue]
    rfl

/-- The parameters of a part, with what stands around them. -/
theorem readParameters?_part (h : Sendable boundary part) :
    readParameters? (splitOn '"' (parameter "name" part.name ++
        parameter "filename" part.filename)) =
      some ((sent? part.name).toList.map (("; name=" : Text), ·) ++
        (sent? part.filename).toList.map (("; filename=" : Text), ·)) := by
  have hlabel : '"' ∉ ("filename" : Text) := by decide
  have hend := readParameters?_parameter_append hlabel h.filename.1 []
  rw [List.append_nil] at hend
  rw [readParameters?_parameter_append (by decide) h.name.1, hend]
  simp [splitOn, readParameters?]

theorem lookup_parameters (name filename : Option Text) :
    let parameters := name.toList.map (("; name=" : Text), ·) ++
      filename.toList.map (("; filename=" : Text), ·)
    parameters.lookup ("; name=" : Text) = name ∧
      parameters.lookup ("; filename=" : Text) = filename := by
  cases name <;> cases filename <;> exact ⟨rfl, rfl⟩

/-! ## Parts -/

/-- The header lines of a part, with its payload. -/
def RawPart.ofPart (part : FormPart) : RawPart where
  lines := headerLines part
  payload := part.payload

theorem body_eq_bodyOf (boundary : Text) (parts : List FormPart) :
    body boundary parts = bodyOf boundary (parts.map RawPart.ofPart) := by
  rw [bodyOf, List.flatMap_map]
  rfl

/-- What stands behind the delimiter of a part. -/
def piece (part : FormPart) : Bytes :=
  (RawPart.ofPart part).piece

theorem isSendable_ofPart (h : Sendable boundary part) :
    (RawPart.ofPart part).IsSendable boundary where
  lines text hmem := isHeaderLine_of_mem hmem
    (not_lineEnd_infix_encode (noBreak_of_mem_headerLines h text hmem).1)
  payload := h.payload

/-- **A piece is read as the part that it was written for.** -/
theorem readPart?_piece (h : Sendable boundary part) :
    readPart? (piece part) = some (ofPart part) := by
  have hhead : readHead? ((headerLines part).flatMap line ++ (lineEnd ++ part.payload)) =
      some (headerLines part, part.payload) :=
    readHead?_flatMap_append (isSendable_ofPart h).lines part.payload
  have hdisposition : (headerLines part).findSome?
      (·.dropPrefix? ("Content-Disposition: form-data" : Text)) =
        some (parameter "name" part.name ++ parameter "filename" part.filename) := by
    rw [headerLines, dispositionLine_eq, List.findSome?_cons, dropPrefix?_append]
  have htype : (headerLines part).findSome? (·.dropPrefix? ("Content-Type: " : Text)) =
      sent? part.contentType := by
    rw [headerLines, dispositionLine_eq, typeLine?_eq]
    -- The first line is of another name.
    show (((sent? part.contentType).map _).toList).findSome? _ = _
    cases sent? part.contentType with
    | none => rfl
    | some contentType =>
      rw [Option.map_some, Option.toList_some, List.findSome?_cons, dropPrefix?_append]
  obtain ⟨hname, hfilename⟩ := lookup_parameters (sent? part.name) (sent? part.filename)
  rw [readPart?, piece, RawPart.piece, RawPart.ofPart, dropPrefix?_append]
  simp only [hhead, hdisposition, readParameters?_part h, hname, hfilename, htype,
    Option.bind_eq_bind, Option.bind_some]
  rfl

/-- **The body of a form falls apart into the pieces of its parts and the end.** -/
theorem pieces_append_body (hboundary : NoBreak boundary)
    (hparts : ∀ part ∈ parts, Sendable boundary part) {before : Bytes}
    (hbefore : ¬ delimiter boundary <:+: before) :
    pieces 0x0D (delimiterRest boundary) (before ++ (lineEnd ++ body boundary parts)) =
      before :: (parts.map piece ++ [line ("--" : Text)]) := by
  have hraws : ∀ raw ∈ parts.map RawPart.ofPart, ¬ delimiter boundary <:+: raw.piece :=
    List.forall_mem_map.mpr fun part hpart =>
      (isSendable_ofPart (hparts part hpart)).not_infix_piece
  rw [body_eq_bodyOf, pieces_append_bodyOf hboundary hraws hbefore, List.map_map]
  rfl

theorem mapM_readPart?_piece (hparts : ∀ part ∈ parts, Sendable boundary part) :
    (parts.map piece).mapM readPart? = some (parts.map ofPart) :=
  Result.mapM_map_eq_some fun part hpart => readPart?_piece (hparts part hpart)

/-- **A multipart form is read as it was written.**  If the boundary is one line, all names
can stand between quotation marks, content types are one line, and no payload has the
delimiter in it or begins with what is left of one behind a line break, then the reader
finds the boundary in the content type, and in the body all parts in order, each with its
payload and with the texts that are not blank. -/
theorem read?_encode (hboundary : NoBreak boundary)
    (hparts : ∀ part ∈ parts, Sendable boundary part) :
    boundary? (encode boundary parts).contentType = some boundary ∧
      read? boundary (encode boundary parts).body = some (parts.map ofPart) := by
  have hnothing : ¬ delimiter boundary <:+: [] := by
    simp [delimiter]
  have hpieces := pieces_append_body hboundary hparts hnothing
  rw [List.nil_append] at hpieces
  constructor
  · show (("multipart/form-data; boundary=" : Text) ++ boundary).dropPrefix?
      ("multipart/form-data; boundary=" : Text) = some boundary
    rw [dropPrefix?_append]
  · show read? boundary (body boundary parts) = some (parts.map ofPart)
    rw [read?, hpieces]
    simp only [List.tail_cons, List.getLast?_concat, List.dropLast_concat, if_true]
    exact mapM_readPart?_piece hparts

/-- Payloads of blank lines and of octets that are no text. -/
theorem read?_encode_binary :
    read? "B" (encode "B" [.value "a" [0x0D, 0x0A, 0x0D, 0x0A],
        .file "b" " " "t/x" [0x0D, 0xFF, 0x2D, 0x2D]]).body =
      some [
        { name := some "a", filename := none, contentType := none,
          payload := [0x0D, 0x0A, 0x0D, 0x0A] },
        { name := some "b", filename := none, contentType := some "t/x",
          payload := [0x0D, 0xFF, 0x2D, 0x2D] }] := by
  have hboundary : NoBreak "B" := by decide
  have hvalue : Sendable "B" (.value "a" [0x0D, 0x0A, 0x0D, 0x0A]) :=
    ⟨by decide, by decide, by decide, by decide +kernel⟩
  have hfile : Sendable "B" (.file "b" " " "t/x" [0x0D, 0xFF, 0x2D, 0x2D]) :=
    ⟨by decide, by decide, by decide, by decide +kernel⟩
  have hparts := List.forall_mem_cons.mpr ⟨hvalue, List.forall_mem_singleton.mpr hfile⟩
  exact (read?_encode hboundary hparts).2.trans (by rfl)

end Multipart
end OutboundHttp
