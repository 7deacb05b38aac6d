import OutboundHttp.Form.Multipart
import OutboundHttp.Proofs.Data.Delimited
import OutboundHttp.Proofs.Text.Cut
import OutboundHttp.Proofs.Text.Utf8

/-!
# A reader of multipart forms

The reader cuts a body at every line that begins with two dashes and the boundary; a line
break is put in front of the body, so that its first line is one like the others.  What
stands behind such a beginning is a part, if it begins with a line break, or the end.  The
header of a part goes to its first empty line, and what is behind that is its payload.
-/
namespace OutboundHttp

/-- What a reader finds in a part. -/
structure ReadPart where
  name : Option Text
  filename : Option Text
  contentType : Option Text
  payload : Bytes
  deriving DecidableEq, Repr

namespace Multipart

open Text Delimited

/-! ## Reading -/

/-- A delimiter behind its carriage return: a line feed, two dashes and the boundary. -/
def delimiterRest (boundary : Text) : Bytes :=
  0x0A :: Utf8.encode (("--" : Text) ++ boundary)

/-- What stands in front of each part and of the end. -/
def delimiter (boundary : Text) : Bytes :=
  0x0D :: delimiterRest boundary

/-- The header lines in front of the first empty line, and what stands behind it. -/
def readHead? (bytes : Bytes) : Option (List Text × Bytes) :=
  match _h : bytes.dropInfix? lineEnd with
  | none => none
  | some (bytes, rest) =>
    if bytes = [] then some ([], rest)
    else do
      let line ← Utf8.decode? bytes
      let (lines, payload) ← readHead? rest
      return (line :: lines, payload)
termination_by bytes.length
decreasing_by exact length_lt_of_dropInfix? _h

/-- Labels and quoted values in turn, as they stand between the quotation marks. -/
def readParameters? : List Text → Option (List (Text × Text))
  | [[]] => some []
  | label :: value :: rest => (readParameters? rest).map ((label, value) :: ·)
  | _ => none

/-- One part, read from what stands behind its delimiter. -/
def readPart? (piece : Bytes) : Option ReadPart := do
  let (lines, payload) ← readHead? (← piece.dropPrefix? lineEnd)
  let disposition ←
    lines.findSome? (·.dropPrefix? ("Content-Disposition: form-data" : Text))
  let parameters ← readParameters? (splitOn '"' disposition)
  return {
    name := parameters.lookup ("; name=" : Text)
    filename := parameters.lookup ("; filename=" : Text)
    contentType := lines.findSome? (·.dropPrefix? ("Content-Type: " : Text))
    payload := payload }

/-- The parts of a multipart form with a given boundary.  What stands in front of the first
delimiter does not count, and behind the last stands the end. -/
def read? (boundary : Text) (body : Bytes) : Option (List ReadPart) :=
  let pieces := (pieces 0x0D (delimiterRest boundary) (lineEnd ++ body)).tail
  if pieces.getLast? = some (line ("--" : Text)) then pieces.dropLast.mapM readPart? else none

/-- The boundary that a content type names. -/
def boundary? (contentType : Text) : Option Text :=
  contentType.dropPrefix? ("multipart/form-data; boundary=" : Text)

/-! ## Header lines -/

theorem dropPrefix?_append {α : Type} [DecidableEq α] (before after : List α) :
    (before ++ after).dropPrefix? before = some after :=
  List.dropPrefix?_append_of_beq after BEq.rfl

theorem return_not_mem_encode {text : Text} (h : '\r' ∉ text) : (0x0D : UInt8) ∉ Utf8.encode text :=
  fun hmem => h (Utf8.ofNat_mem_of_mem_encode hmem (by decide))

theorem not_lineEnd_infix_encode {text : Text} (h : '\r' ∉ text) :
    ¬ lineEnd <:+: Utf8.encode text :=
  not_infix_of_not_mem (return_not_mem_encode h)

/-- What a line and all behind it is read as. -/
theorem readHead?_of_dropInfix? {bytes content rest : Bytes}
    (h : bytes.dropInfix? lineEnd = some (content, rest)) :
    readHead? bytes =
      if content = [] then some ([], rest)
      else (Utf8.decode? content).bind fun line =>
        (readHead? rest).map fun (lines, payload) => (line :: lines, payload) := by
  rw [readHead?]
  split
  · rename_i hnone
    rw [h] at hnone
    cases hnone
  · rename_i hsome
    rw [h] at hsome
    cases hsome
    split
    · rfl
    · cases Utf8.decode? content with
      | none => rfl
      | some line => cases readHead? rest <;> rfl

/-- A header line is read before those behind it. -/
theorem readHead?_line_append {text : Text} (hne : text ≠ [])
    (h : ¬ lineEnd <:+: Utf8.encode text) (rest : Bytes) :
    readHead? (line text ++ rest) =
      (readHead? rest).map fun (lines, payload) => (text :: lines, payload) := by
  have hdrop : (line text ++ rest).dropInfix? lineEnd = some (Utf8.encode text, rest) :=
    dropInfix?_append (by decide) h rest
  rw [readHead?_of_dropInfix? hdrop, if_neg (Utf8.encode_eq_nil_iff.not.mpr hne),
    Utf8.decode?_encode]
  rfl

/-- The payload stands behind the first empty line. -/
theorem readHead?_lineEnd_append (payload : Bytes) :
    readHead? (lineEnd ++ payload) = some ([], payload) := by
  have hnothing : ¬ [0x0D, 0x0A] <:+: ([] : Bytes) := by simp
  have hdrop : (lineEnd ++ payload).dropInfix? lineEnd = some ([], payload) :=
    dropInfix?_append (by decide) hnothing payload
  rw [readHead?_of_dropInfix? hdrop, if_pos rfl]

end Multipart
end OutboundHttp
