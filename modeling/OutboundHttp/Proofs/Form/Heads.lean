import OutboundHttp.Proofs.Data.Result
import OutboundHttp.Proofs.Form.Reader
import OutboundHttp.Proofs.Uri.Reading

/-!
# Header blocks of multipart forms

Before its header lines are looked at, a part is a block of lines with a payload behind it.
Blocks of lines that can be taken neither for an empty line nor for a delimiter are found again
in a body (`readRaws?_bodyOf`), and in turn a body is made of the blocks that are found in it
(`eq_bodyOf_of_readRaws?`).  Two such forms of one body have the same number of lines
(`lineCount_bodyOf`), so a text with a line break in it does not pass for one line.
-/
namespace OutboundHttp
namespace Multipart

open Text Uri Delimited

/-- A part whose header lines have not been looked at. -/
structure RawPart where
  lines : List Text
  payload : Bytes
  deriving DecidableEq, Repr

/-- What stands behind the delimiter of a part. -/
def RawPart.piece (raw : RawPart) : Bytes :=
  lineEnd ++ (raw.lines.flatMap line ++ (lineEnd ++ raw.payload))

/-- The body of a form with these parts. -/
def bodyOf (boundary : Text) (raws : List RawPart) : Bytes :=
  raws.flatMap (fun raw => line (("--" : Text) ++ boundary) ++ raw.lines.flatMap line ++
    lineEnd ++ raw.payload ++ lineEnd) ++ closingLine boundary

/-- A part up to its header lines, read from what stands behind its delimiter. -/
def readRaw? (piece : Bytes) : Option RawPart := do
  let (lines, payload) ← readHead? (← piece.dropPrefix? lineEnd)
  return ⟨lines, payload⟩

/-- The parts of a multipart form up to their header lines: the body is cut at its delimiters,
and each part at its first empty line. -/
def readRaws? (boundary : Text) (body : Bytes) : Option (List RawPart) :=
  let pieces := (pieces 0x0D (delimiterRest boundary) (lineEnd ++ body)).tail
  if pieces.getLast? = some (line ("--" : Text)) then pieces.dropLast.mapM readRaw? else none

variable {boundary : Text} {raw : RawPart} {raws : List RawPart}

/-! ## Written and read -/

/-- The text is one line, and can be taken neither for the empty one nor for a delimiter. -/
structure IsHeaderLine (text : Text) : Prop where
  ne_nil : text ≠ []
  head : text.head? ≠ some '-'
  unbroken : ¬ lineEnd <:+: Utf8.encode text

/-- Nothing in the part can be taken for something that stands around it. -/
structure RawPart.IsSendable (boundary : Text) (raw : RawPart) : Prop where
  lines : ∀ text ∈ raw.lines, IsHeaderLine text
  payload : ¬ delimiter boundary <:+: lineEnd ++ raw.payload

theorem readHead?_flatMap_append {lines : List Text} (h : ∀ text ∈ lines, IsHeaderLine text)
    (payload : Bytes) :
    readHead? (lines.flatMap line ++ (lineEnd ++ payload)) = some (lines, payload) := by
  induction lines with
  | nil => exact readHead?_lineEnd_append payload
  | cons text lines ih =>
    obtain ⟨htext, hlines⟩ := List.forall_mem_cons.mp h
    rw [List.flatMap_cons, List.append_assoc, readHead?_line_append htext.ne_nil htext.unbroken,
      ih hlines]
    rfl

theorem readRaw?_piece (h : ∀ text ∈ raw.lines, IsHeaderLine text) :
    readRaw? raw.piece = some raw := by
  rw [readRaw?, RawPart.piece, dropPrefix?_append]
  simp only [readHead?_flatMap_append h, Option.bind_eq_bind, Option.bind_some]
  rfl

/-- The first octet of a text is a dash only if its first character is. -/
theorem head?_encode_append {text : Text} (hne : text ≠ []) (hhead : text.head? ≠ some '-')
    (rest : Bytes) : (Utf8.encode text ++ rest).head? ≠ some 0x2D := by
  obtain ⟨c, text, rfl⟩ := List.exists_cons_of_ne_nil hne
  intro hdash
  cases hbytes : String.utf8EncodeChar c with
  | nil =>
    have hempty : Utf8.encode [c] = [] := by
      rw [Utf8.encode_cons, hbytes]
      rfl
    exact absurd (Utf8.encode_eq_nil_iff.mp hempty) (List.cons_ne_nil c [])
  | cons b bytes =>
    rw [Utf8.encode_cons, hbytes] at hdash
    obtain rfl : b = 0x2D := Option.some.inj hdash
    have hmem : (0x2D : UInt8) ∈ String.utf8EncodeChar c := by simp [hbytes]
    have hc : c.toNat = '-'.toNat := Utf8.toNat_eq_of_mem_utf8EncodeChar hmem (by decide)
    exact hhead (congrArg some (Char.ext (UInt32.toNat_inj.mp hc)))

/-- A delimiter behind the end of a line begins with that end, or behind it. -/
theorem delimiter_infix_lineEnd_append_iff {bytes : Bytes} :
    delimiter boundary <:+: lineEnd ++ bytes ↔
      [0x2D, 0x2D] ++ Utf8.encode boundary <+: bytes ∨ delimiter boundary <:+: bytes := by
  have hdelimiter : delimiter boundary = lineEnd ++ ([0x2D, 0x2D] ++ Utf8.encode boundary) := rfl
  constructor
  · intro h
    rcases List.infix_cons_iff.mp h with hstart | hbehind
    · left
      exact (List.prefix_append_right_inj lineEnd).mp (hdelimiter ▸ hstart)
    · right
      have hfeed : (0x0D : UInt8) ∉ [0x0A] := by decide
      exact infix_of_infix_append hfeed hbehind
  · rintro (hstart | hbehind)
    · rw [hdelimiter]
      exact ((List.prefix_append_right_inj lineEnd).mpr hstart).isInfix
    · exact hbehind.trans (List.suffix_append lineEnd bytes).isInfix

/-- A delimiter begins at the end of a line only if the next one begins with a dash. -/
theorem infix_of_infix_lineEnd_append {bytes : Bytes} (hdash : bytes.head? ≠ some 0x2D)
    (h : delimiter boundary <:+: lineEnd ++ bytes) : delimiter boundary <:+: bytes := by
  rcases delimiter_infix_lineEnd_append_iff.mp h with ⟨tail, rfl⟩ | hbehind
  · exact absurd rfl hdash
  · exact hbehind

/-- A piece has no delimiter in it. -/
theorem RawPart.IsSendable.not_infix_piece (h : raw.IsSendable boundary) :
    ¬ delimiter boundary <:+: raw.piece := by
  obtain ⟨lines, payload⟩ := raw
  have hlines : ∀ text ∈ lines, IsHeaderLine text := h.lines
  have hpayload : ¬ delimiter boundary <:+: lineEnd ++ payload := h.payload
  clear h
  show ¬ delimiter boundary <:+: lineEnd ++ (lines.flatMap line ++ (lineEnd ++ payload))
  -- On the header lines; what is left behind the last is the empty line with the payload.
  induction lines with
  | nil =>
    intro hoccurs
    exact hpayload (infix_of_infix_lineEnd_append (by simp [lineEnd]) hoccurs)
  | cons text lines ih =>
    obtain ⟨htext, hlines⟩ := List.forall_mem_cons.mp hlines
    intro hoccurs
    rw [List.flatMap_cons, line, List.append_assoc, List.append_assoc] at hoccurs
    have hbehind := infix_of_infix_lineEnd_append
      (head?_encode_append htext.ne_nil htext.head _) hoccurs
    have hfeed : (0x0D : UInt8) ∉ [0x0A] := by decide
    exact ih hlines (infix_of_infix_append_delimiter hfeed htext.unbroken hbehind)

/-! ## Bodies -/

theorem lineEnd_append_bodyOf_nil (boundary : Text) :
    lineEnd ++ bodyOf boundary [] = delimiter boundary ++ line ("--" : Text) := by
  simp [bodyOf, closingLine, line, delimiter, delimiterRest, lineEnd]

theorem lineEnd_append_bodyOf_cons (boundary : Text) (raw : RawPart) (raws : List RawPart) :
    lineEnd ++ bodyOf boundary (raw :: raws) =
      delimiter boundary ++ (raw.piece ++ (lineEnd ++ bodyOf boundary raws)) := by
  simp [bodyOf, RawPart.piece, line, delimiter, delimiterRest, lineEnd]

theorem delimiter_prefix_bodyOf (boundary : Text) (raws : List RawPart) :
    delimiter boundary <+: lineEnd ++ bodyOf boundary raws := by
  cases raws with
  | nil =>
    rw [lineEnd_append_bodyOf_nil]
    exact List.prefix_append _ _
  | cons raw raws =>
    rw [lineEnd_append_bodyOf_cons]
    exact List.prefix_append _ _

theorem not_delimiter_infix_nil (boundary : Text) : ¬ delimiter boundary <:+: [] := by
  simp [delimiter]

/-- The end is not a delimiter. -/
theorem not_infix_end (boundary : Text) : ¬ delimiter boundary <:+: line ("--" : Text) := by
  intro h
  have hdashes : (0x0D : UInt8) ∉ [0x2D, 0x2D] := by decide
  have hlength : (lineEnd ++ 0x2D :: 0x2D :: Utf8.encode boundary).length ≤ lineEnd.length :=
    (infix_of_infix_append hdashes h).length_le
  simp only [List.length_append, List.length_cons] at hlength
  omega

theorem return_not_mem_delimiterRest (h : NoBreak boundary) : 0x0D ∉ delimiterRest boundary := by
  have hdashes : '\r' ∉ ("--" : Text) ++ boundary := by
    simpa using h.1
  simpa [delimiterRest] using return_not_mem_encode hdashes

/-- **The body of a form falls apart into the pieces of its parts and the end.** -/
theorem pieces_append_bodyOf (hboundary : NoBreak boundary)
    (hraws : ∀ raw ∈ raws, ¬ delimiter boundary <:+: raw.piece) {before : Bytes}
    (hbefore : ¬ delimiter boundary <:+: before) :
    pieces 0x0D (delimiterRest boundary) (before ++ (lineEnd ++ bodyOf boundary raws)) =
      before :: (raws.map RawPart.piece ++ [line ("--" : Text)]) := by
  have hfresh := return_not_mem_delimiterRest hboundary
  -- On the parts; the bytes before are the piece of the part dealt with last.
  induction raws generalizing before with
  | nil =>
    rw [lineEnd_append_bodyOf_nil, ← List.append_assoc, delimiter, pieces_append hfresh hbefore,
      pieces_of_not_infix (not_infix_end boundary)]
    rfl
  | cons raw raws ih =>
    obtain ⟨hraw, hraws⟩ := List.forall_mem_cons.mp hraws
    rw [lineEnd_append_bodyOf_cons, ← List.append_assoc, delimiter, pieces_append hfresh hbefore,
      ih hraws hraw]
    rfl

/-- **Header blocks and payloads are read as they were written.** -/
theorem readRaws?_bodyOf (hboundary : NoBreak boundary)
    (h : ∀ raw ∈ raws, raw.IsSendable boundary) :
    readRaws? boundary (bodyOf boundary raws) = some raws := by
  have hpieces := pieces_append_bodyOf hboundary (fun raw hraw => (h raw hraw).not_infix_piece)
    (not_delimiter_infix_nil boundary)
  rw [List.nil_append] at hpieces
  rw [readRaws?, hpieces]
  simp only [List.tail_cons, List.getLast?_concat, List.dropLast_concat, if_true]
  exact (Result.mapM_map_eq_some fun raw hraw => readRaw?_piece (h raw hraw).lines).trans
    (congrArg some (List.map_id raws))

/-! ## Read and written -/

/-- What is read as a header is the header of these lines, none of which has an end in it. -/
theorem eq_of_readHead? {bytes payload : Bytes} {lines : List Text}
    (h : readHead? bytes = some (lines, payload)) :
    bytes = lines.flatMap line ++ (lineEnd ++ payload) ∧
      ∀ text ∈ lines, ¬ lineEnd <:+: Utf8.encode text := by
  induction bytes using readHead?.induct generalizing lines payload with
  | case1 bytes hdrop =>
    rw [readHead?] at h
    split at h
    · cases h
    · rename_i hsome
      rw [hdrop] at hsome
      cases hsome
  | case2 bytes rest hdrop =>
    rw [readHead?_of_dropInfix? hdrop, if_pos rfl] at h
    cases h
    exact ⟨append_eq_of_dropInfix? hdrop, List.forall_mem_nil _⟩
  | case3 bytes content rest hdrop hne ih =>
    rw [readHead?_of_dropInfix? hdrop, if_neg hne] at h
    obtain ⟨text, hdecode, h⟩ := Option.bind_eq_some_iff.mp h
    obtain ⟨⟨lines', payload'⟩, hrest, heq⟩ := Option.map_eq_some_iff.mp h
    cases heq
    obtain rfl := Utf8.eq_encode_of_decode? hdecode
    obtain ⟨rfl, hlines⟩ := ih hrest
    refine ⟨?_, List.forall_mem_cons.mpr ⟨not_infix_of_dropInfix? hdrop, hlines⟩⟩
    rw [append_eq_of_dropInfix? hdrop, List.flatMap_cons, line,
      List.append_assoc _ _ (lineEnd ++ _)]

/-- No line has the end of a line in it. -/
def RawPart.IsUnbroken (raw : RawPart) : Prop :=
  ∀ text ∈ raw.lines, ¬ lineEnd <:+: Utf8.encode text

theorem eq_piece_of_readRaw? {piece : Bytes} (h : readRaw? piece = some raw) :
    piece = raw.piece ∧ raw.IsUnbroken := by
  obtain ⟨behind, hprefix, h⟩ := Option.bind_eq_some_iff.mp h
  obtain ⟨⟨lines, payload⟩, hhead, h⟩ := Option.bind_eq_some_iff.mp h
  cases h
  obtain ⟨start, rfl, hstart⟩ := List.dropPrefix?_eq_some_iff.mp hprefix
  obtain rfl := eq_of_beq hstart
  obtain ⟨rfl, hlines⟩ := eq_of_readHead? hhead
  exact ⟨rfl, hlines⟩

theorem eq_map_piece_of_mapM_readRaw? {pieces : List Bytes} (h : pieces.mapM readRaw? = some raws) :
    pieces = raws.map RawPart.piece ∧ ∀ raw ∈ raws, raw.IsUnbroken := by
  induction pieces generalizing raws with
  | nil =>
    cases h
    exact ⟨rfl, List.forall_mem_nil _⟩
  | cons piece pieces ih =>
    rw [List.mapM_cons] at h
    obtain ⟨raw, hraw, h⟩ := Option.bind_eq_some_iff.mp h
    obtain ⟨raws, hraws, h⟩ := Option.bind_eq_some_iff.mp h
    cases h
    obtain ⟨rfl, hunbroken⟩ := eq_piece_of_readRaw? hraw
    obtain ⟨rfl, hothers⟩ := ih hraws
    exact ⟨rfl, List.forall_mem_cons.mpr ⟨hunbroken, hothers⟩⟩

theorem lineEnd_append_bodyOf_eq (boundary : Text) (raws : List RawPart) :
    lineEnd ++ bodyOf boundary raws =
      (raws.map RawPart.piece ++ [line ("--" : Text)]).flatMap (delimiter boundary ++ ·) := by
  induction raws with
  | nil =>
    rw [lineEnd_append_bodyOf_nil]
    exact (List.append_nil _).symm
  | cons raw raws ih =>
    rw [lineEnd_append_bodyOf_cons, ih, ← List.append_assoc]
    rfl

/-- **A body is made of the header blocks and payloads that are read from it**, if it begins
with a delimiter. -/
theorem eq_bodyOf_of_readRaws? (hboundary : NoBreak boundary) {body : Bytes}
    (hstart : delimiter boundary <+: lineEnd ++ body) (h : readRaws? boundary body = some raws) :
    body = bodyOf boundary raws ∧ ∀ raw ∈ raws, raw.IsUnbroken := by
  obtain ⟨behind, hbehind⟩ := hstart
  have hfresh := return_not_mem_delimiterRest hboundary
  -- There is nothing in front of the first delimiter.
  have hpieces : pieces 0x0D (delimiterRest boundary) (lineEnd ++ body) =
      [] :: pieces 0x0D (delimiterRest boundary) behind := by
    rw [← hbehind]
    exact pieces_append hfresh (not_delimiter_infix_nil boundary) behind
  rw [readRaws?, hpieces, List.tail_cons] at h
  split at h
  · rename_i hlast
    obtain ⟨hparts, hunbroken⟩ := eq_map_piece_of_mapM_readRaw? h
    have hbody : lineEnd ++ body = lineEnd ++ bodyOf boundary raws := by
      rw [lineEnd_append_bodyOf_eq, ← hparts, List.dropLast_append_getLast? _ hlast]
      exact eq_of_pieces hpieces
    exact ⟨List.append_cancel_left hbody, hunbroken⟩
  · cases h

/-! ## Counted lines -/

/-- The number of lines in a row of octets; the last one needs no end. -/
def lineCount (bytes : Bytes) : Nat :=
  (pieces 0x0D [0x0A] bytes).length

theorem lineCount_append (before after : Bytes) :
    lineCount (before ++ (lineEnd ++ after)) = lineCount before + lineCount after := by
  have hpieces := pieces_append_pieces (by decide : (0x0D : UInt8) ∉ [0x0A]) before after
  rw [List.append_assoc] at hpieces
  exact (congrArg List.length hpieces).trans List.length_append

theorem one_le_lineCount (bytes : Bytes) : 1 ≤ lineCount bytes :=
  List.length_pos_of_ne_nil (pieces_ne_nil _ _ _)

theorem lineCount_eq_one_iff {bytes : Bytes} : lineCount bytes = 1 ↔ ¬ lineEnd <:+: bytes :=
  length_pieces_eq_one_iff (by decide)

/-- The number of lines that texts make when each of them is written as one. -/
def linesIn : List Text → Nat
  | [] => 0
  | text :: texts => lineCount (Utf8.encode text) + linesIn texts

theorem linesIn_append (texts more : List Text) :
    linesIn (texts ++ more) = linesIn texts + linesIn more := by
  induction texts with
  | nil => simp [linesIn]
  | cons text texts ih =>
    rw [List.cons_append, linesIn, linesIn, ih, Nat.add_assoc]

theorem length_le_linesIn (texts : List Text) : texts.length ≤ linesIn texts := by
  induction texts with
  | nil => exact Nat.le_refl 0
  | cons text texts ih =>
    have hfirst := one_le_lineCount (Utf8.encode text)
    rw [List.length_cons, linesIn]
    omega

/-- Texts make one line each exactly if none of them has the end of a line in it. -/
theorem linesIn_eq_length_iff {texts : List Text} :
    linesIn texts = texts.length ↔ ∀ text ∈ texts, ¬ lineEnd <:+: Utf8.encode text := by
  induction texts with
  | nil => simp [linesIn]
  | cons text texts ih =>
    have hfirst := one_le_lineCount (Utf8.encode text)
    have hothers := length_le_linesIn texts
    rw [List.forall_mem_cons, ← lineCount_eq_one_iff, ← ih, linesIn, List.length_cons]
    omega

theorem lineCount_line_append (text : Text) (rest : Bytes) :
    lineCount (line text ++ rest) = lineCount (Utf8.encode text) + lineCount rest := by
  rw [line, List.append_assoc, lineCount_append]

theorem lineCount_flatMap_line_append (lines : List Text) (rest : Bytes) :
    lineCount (lines.flatMap line ++ rest) = linesIn lines + lineCount rest := by
  induction lines with
  | nil => simp [linesIn]
  | cons text lines ih =>
    rw [List.flatMap_cons, List.append_assoc, lineCount_line_append, ih, linesIn, Nat.add_assoc]

theorem lineCount_bodyOf_cons (boundary : Text) (raw : RawPart) (raws : List RawPart) :
    lineCount (bodyOf boundary (raw :: raws)) =
      lineCount (Utf8.encode (("--" : Text) ++ boundary)) + (linesIn raw.lines +
        (lineCount [] + (lineCount raw.payload + lineCount (bodyOf boundary raws)))) := by
  have hbody : bodyOf boundary (raw :: raws) =
      line (("--" : Text) ++ boundary) ++ (raw.lines.flatMap line ++
        ([] ++ (lineEnd ++ (raw.payload ++ (lineEnd ++ bodyOf boundary raws))))) := by
    simp [bodyOf]
  rw [hbody, lineCount_line_append, lineCount_flatMap_line_append, lineCount_append,
    lineCount_append]

/-- **The lines of a body are those of its header blocks, and those of a body with the same
payloads but no header lines.** -/
theorem lineCount_bodyOf (boundary : Text) (raws : List RawPart) :
    lineCount (bodyOf boundary raws) = linesIn (raws.flatMap RawPart.lines) +
      lineCount (bodyOf boundary ((raws.map RawPart.payload).map (RawPart.mk []))) := by
  induction raws with
  | nil => simp [linesIn]
  | cons raw raws ih =>
    rw [List.map_cons, List.map_cons, List.flatMap_cons, linesIn_append, lineCount_bodyOf_cons,
      lineCount_bodyOf_cons, ih]
    simp only [linesIn]
    omega

/-- **A text with the end of a line in it does not pass for one line.**  If a body can also be
made from as many lines without one, in front of the same payloads, there is no such text. -/
theorem isUnbroken_of_bodyOf_eq {others : List RawPart}
    (hbody : bodyOf boundary raws = bodyOf boundary others)
    (hpayloads : raws.map RawPart.payload = others.map RawPart.payload)
    (hlines : (raws.flatMap RawPart.lines).length = (others.flatMap RawPart.lines).length)
    (hothers : ∀ raw ∈ others, raw.IsUnbroken) : ∀ raw ∈ raws, raw.IsUnbroken := by
  have hcount : linesIn (raws.flatMap RawPart.lines) = linesIn (others.flatMap RawPart.lines) := by
    have hboth := congrArg lineCount hbody
    rw [lineCount_bodyOf boundary raws, lineCount_bodyOf boundary others, hpayloads] at hboth
    omega
  have hunbroken :
      linesIn (others.flatMap RawPart.lines) = (others.flatMap RawPart.lines).length := by
    refine linesIn_eq_length_iff.mpr fun text htext => ?_
    obtain ⟨raw, hraw, htext⟩ := List.mem_flatMap.mp htext
    exact hothers raw hraw text htext
  have hall := linesIn_eq_length_iff.mp (hcount.trans (hunbroken.trans hlines.symm))
  exact fun raw hraw text htext => hall text (List.mem_flatMap.mpr ⟨raw, hraw, htext⟩)

end Multipart
end OutboundHttp
