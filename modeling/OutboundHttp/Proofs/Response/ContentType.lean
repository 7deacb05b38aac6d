import OutboundHttp.Proofs.Charset.Labels
import OutboundHttp.Proofs.Text.Cut
import OutboundHttp.Proofs.Text.Find
import OutboundHttp.Response.Basic

/-!
# The charset parameter

Behind the media type of a content type stand parameters, one of which may name the charset
(`charsetValue?`).  The label of a response is not looked for among the parameters: it is what
follows the first `charset=`, be this in the media type, in the name of another parameter or in a
value (`label_eq`).  Where the first piece between semicolons that holds this mark is the charset
parameter, the label is the value of it as long as the value has neither quotation marks nor white
space in it (`markedLabel_eq_iff`).  `label_of_contentType` says exactly when the label is that of
the parameter.
-/
namespace OutboundHttp
namespace ContentType

open Text

/-! ## What a content type says -/

/-- White space around a parameter. -/
def isPadding (c : Char) : Bool :=
  c == ' ' || c == '\t'

/-- The name and the value of a parameter; white space around it does not count. -/
def parameter? (piece : Text) : Option (Text × Text) :=
  cutAt? '=' (trim isPadding piece)

/-- The piece is a parameter whose name is `charset` in any case. -/
def isCharset (piece : Text) : Bool :=
  (parameter? piece).any fun parameter => sameIgnoringCase parameter.1 "charset"

/-- The first charset parameter among the pieces behind the media type. -/
def charsetPiece? (contentType : Text) : Option Text :=
  (splitOn ';' contentType).tail.find? isCharset

/-- The value of the charset parameter, without quotation marks around it. -/
def charsetValue? (contentType : Text) : Option Text :=
  ((charsetPiece? contentType).bind parameter?).map fun parameter => trim (· == '"') parameter.2

/-! ## What is read from it -/

/-- The label that is read from a content type; it is empty if there is none. -/
def label (contentType : Text) : Text :=
  (HeaderLines.charsetLabel? contentType).getD []

/-- The charset of a label, UTF-8 if it names none that is known. -/
def charsetOf (label : Text) : Charset :=
  (Charset.ofLabel? label).getD .utf8

/-- **The label is that of the charset parameter**, and without such a parameter UTF-8 is taken. -/
def FollowsParameter (contentType : Text) : Prop :=
  match charsetValue? contentType with
  | some value => label contentType = value
  | none => charsetOf (label contentType) = .utf8

/-- What stands in front of a label. -/
def mark : Text := "charset="

/-- The first piece, the media type among them, that holds the mark in any case. -/
def markedPiece? (contentType : Text) : Option Text :=
  (splitOn ';' contentType).find? fun piece => occursIn mark (lowerAscii piece)

/-- A character of a label. -/
def isLabelChar (c : Char) : Bool :=
  c != '"' && c != ';' && !Charset.isAsciiSpace c

/-- The first word of what stands behind a mark, quotation marks in front of it left out. -/
def firstWord (rest : Text) : Text :=
  (trimStart (· == '"') rest).takeWhile isLabelChar

/-- The label that is read from a piece that holds the mark. -/
def markedLabel (piece : Text) : Text :=
  firstWord ((behind? mark piece).getD [])

theorem charsetOf_nil : charsetOf [] = .utf8 := by
  rw [charsetOf, Charset.ofLabel?_nil]
  rfl

theorem charsetOf_of_mem {charset : Charset} {known : String} {label : Text}
    (h : known ∈ charset.labels)
    (hlabel : known.toList = lowerAscii (trim Charset.isAsciiSpace label)) :
    charsetOf label = charset := by
  rw [charsetOf, Charset.ofLabel?_eq_some_iff.mpr ⟨known, h, hlabel⟩]
  rfl

theorem charsetLabel?_eq (contentType : Text) :
    HeaderLines.charsetLabel? contentType =
      ((behind? mark contentType).map firstWord).filter (!·.isEmpty) := by
  have hmark : mark = "charset=".toList := rfl
  simp only [HeaderLines.charsetLabel?, behind?, ← hmark]
  cases after? mark (lowerAscii contentType) with
  | none => rfl
  | some lower =>
    simp only [Option.map_some, Option.filter_some]
    generalize contentType.drop (contentType.length - lower.length) = rest
    change (if (firstWord rest).isEmpty then none else some (firstWord rest)) = _
    cases firstWord rest <;> rfl

theorem label_eq_firstWord (contentType : Text) :
    label contentType = ((behind? mark contentType).map firstWord).getD [] := by
  rw [label, charsetLabel?_eq]
  cases (behind? mark contentType).map firstWord with
  | none => rfl
  | some word => cases word <;> rfl

/-- What begins neither with a quotation mark nor with a character of a label ends the word. -/
theorem firstWord_append {behind : Text} (hquote : Stops (· == '"') behind)
    (hchar : Stops isLabelChar behind) (rest : Text) :
    firstWord (rest ++ behind) = firstWord rest := by
  obtain ⟨run, tail, rfl, hrun, htail⟩ := exists_run (· == '"') rest
  obtain ⟨word, more, rfl, hword, hmore⟩ := exists_run isLabelChar tail
  have hwhole : trimStart (· == '"') (run ++ (word ++ more) ++ behind) = word ++ (more ++ behind) := by
    rw [List.append_assoc, List.append_assoc]
    exact dropWhile_append_of_stops hrun (by simpa using htail.append hquote)
  have hpart : trimStart (· == '"') (run ++ (word ++ more)) = word ++ more :=
    dropWhile_append_of_stops hrun htail
  rw [firstWord, firstWord, hwhole, hpart, takeWhile_append_of_stops hword (hmore.append hchar),
    takeWhile_append_of_stops hword hmore]

/-- What is read behind the first mark is read from the first piece that holds it. -/
theorem map_firstWord_behind? (contentType : Text) :
    (behind? mark contentType).map firstWord = (markedPiece? contentType).map markedLabel := by
  induction contentType using splitOn_induction ';' with
  | whole text hmem =>
    rw [markedPiece?, splitOn_of_not_mem hmem, List.find?_singleton, ← isSome_behind?]
    cases h : behind? mark text with
    | none => rfl
    | some rest => simp [markedLabel, h]
  | cut before after hmem ih =>
    have hmark : mark ≠ [] ∧ ';' ∉ mark := by decide
    rw [markedPiece?, splitOn_append_cons_of_not_mem hmem, List.find?_cons,
      behind?_append_cons hmark.1 hmark.2 (by decide), ← isSome_behind?]
    cases h : behind? mark before with
    | none => exact ih
    | some rest =>
      have hsemicolon : Stops (· == '"') (';' :: after) ∧ Stops isLabelChar (';' :: after) := by
        simp [isLabelChar]
      simp [markedLabel, h, firstWord_append hsemicolon.1 hsemicolon.2]

/-- **The label is read from the first piece that holds the mark.** -/
theorem label_eq (contentType : Text) :
    label contentType = ((markedPiece? contentType).map markedLabel).getD [] := by
  rw [label_eq_firstWord, map_firstWord_behind?]

theorem charsetLabel?_eq_some_iff {contentType label : Text} :
    HeaderLines.charsetLabel? contentType = some label ↔
      label ≠ [] ∧ ∃ piece, markedPiece? contentType = some piece ∧ markedLabel piece = label := by
  rw [charsetLabel?_eq, map_firstWord_behind?, Option.filter_eq_some_iff, Option.map_eq_some_iff,
    and_comm]
  simp

/-! ## The charset parameter -/

variable {contentType piece name value back : Text}

theorem isPadding_iff {c : Char} : isPadding c = true ↔ c = ' ' ∨ c = '\t' := by
  simp [isPadding]

theorem isLabelChar_iff {c : Char} :
    isLabelChar c = true ↔ c ≠ '"' ∧ c ≠ ';' ∧ Charset.isAsciiSpace c = false := by
  simp [isLabelChar, and_assoc]

/-- No white space could be trimmed away from a label. -/
theorem trim_markedLabel (piece : Text) :
    trim Charset.isAsciiSpace (markedLabel piece) = markedLabel piece := by
  refine trim_eq_self fun c hc => ?_
  have hchar := List.all_eq_true.mp List.all_takeWhile c hc
  exact (isLabelChar_iff.mp hchar).2.2

/-- What follows the mark of a charset parameter is the value, with white space behind it. -/
theorem exists_behind_mark (h : parameter? piece = some (name, value))
    (hname : sameIgnoringCase name "charset" = true) :
    ∃ back, behind? mark piece = some (value ++ back) ∧ (∀ c ∈ back, isPadding c) ∧
      value ⊆ piece := by
  obtain ⟨-, htrim⟩ := eq_append_cons_of_cutAt? h
  obtain ⟨front, back, hpiece, hfront, hback, -⟩ := exists_trim isPadding piece
  rw [htrim] at hpiece
  have hlower : lowerAscii (name ++ ['=']) = mark := by
    rw [lowerAscii_append, eq_of_beq hname]
    rfl
  have hbefore : 'c' ∉ lowerAscii front := by
    intro hmem
    obtain ⟨d, hd, hc⟩ := List.mem_map.mp hmem
    rcases isPadding_iff.mp (hfront d hd) with rfl | rfl
    · exact absurd hc (by decide)
    · exact absurd hc (by decide)
  have hwhole : piece = front ++ ((name ++ ['=']) ++ (value ++ back)) := by
    rw [hpiece]
    simp
  refine ⟨back, ?_, hback, fun c hc => ?_⟩
  · rw [hwhole]
    exact behind?_append_append hbefore hlower (value ++ back)
  · rw [hwhole]
    simp [hc]

/-- The first word of a value is the value without quotation marks around it exactly if it is a
word: it has neither quotation marks nor white space in it. -/
theorem firstWord_eq_iff (hback : ∀ c ∈ back, isPadding c) (hvalue : ';' ∉ value) :
    firstWord (value ++ back) = trim (· == '"') value ↔
      ∀ c ∈ trim (· == '"') value, c ≠ '"' ∧ Charset.isAsciiSpace c = false := by
  have hpadding : Stops (· == '"') back ∧ Stops isLabelChar back := by
    constructor <;> refine stops_of_forall fun c hc => ?_ <;>
      rcases isPadding_iff.mp (hback c hc) with rfl | rfl <;> decide
  obtain ⟨front, quotes, hwhole, hfront, hquotes, hstop⟩ := exists_trim (· == '"') value
  rw [firstWord_append hpadding.1 hpadding.2]
  generalize trim (· == '"') value = word at *
  have hend : Stops isLabelChar quotes := stops_of_forall fun c hc => by
    rw [beq_iff_eq.mp (hquotes c hc)]
    decide
  have hfirst : firstWord value = (word ++ quotes).takeWhile isLabelChar := by
    rw [firstWord, hwhole]
    exact congrArg (List.takeWhile isLabelChar) (dropWhile_append_of_stops hfront hstop)
  rw [hfirst]
  constructor
  · intro heq c hc
    rw [← heq] at hc
    obtain ⟨hquote, -, hspace⟩ := isLabelChar_iff.mp (List.all_eq_true.mp List.all_takeWhile c hc)
    exact ⟨hquote, hspace⟩
  · intro hword
    refine takeWhile_append_of_stops (fun c hc => isLabelChar_iff.mpr ?_) hend
    have hsemicolon : c ≠ ';' := by
      rintro rfl
      exact hvalue (by simp [hwhole, hc])
    exact ⟨(hword c hc).1, hsemicolon, (hword c hc).2⟩

/-- A charset parameter holds the mark. -/
theorem occursIn_of_isCharset (h : isCharset piece = true) :
    occursIn mark (lowerAscii piece) = true := by
  obtain ⟨⟨name, value⟩, hparameter, hname⟩ := (Option.any_eq_true _ _).mp h
  obtain ⟨back, hbehind, -⟩ := exists_behind_mark hparameter hname
  rw [← isSome_behind?, hbehind]
  rfl

/-- **The label of a charset parameter** is the value of it exactly if this is a word. -/
theorem markedLabel_eq_iff (h : charsetPiece? contentType = some piece)
    (hvalue : charsetValue? contentType = some value) :
    markedLabel piece = value ↔ ∀ c ∈ value, c ≠ '"' ∧ Charset.isAsciiSpace c = false := by
  have hcharset : isCharset piece = true := List.find?_some h
  obtain ⟨⟨name, text⟩, hparameter, hname⟩ := (Option.any_eq_true _ _).mp hcharset
  obtain ⟨back, hbehind, hback, hsub⟩ := exists_behind_mark hparameter hname
  have hpiece : ';' ∉ piece :=
    not_mem_of_mem_splitOn contentType (List.mem_of_mem_tail (List.mem_of_find?_eq_some h))
  rw [charsetValue?, h, Option.bind_some, hparameter] at hvalue
  cases hvalue
  rw [markedLabel, hbehind]
  exact firstWord_eq_iff hback fun hmem => hpiece (hsub hmem)

/-! ## The charset of a response -/

/-- What stands behind the first mark gives the label of the charset parameter.  If it is this
parameter, its value is a word.  If it is in another piece, it comes to the same by chance: it is the
word that the parameter has for a value, or names no charset but UTF-8 where there is none. -/
def IsToldBy (contentType piece : Text) : Prop :=
  match charsetValue? contentType with
  | some value =>
    if charsetPiece? contentType = some piece then
      ∀ c ∈ value, c ≠ '"' ∧ Charset.isAsciiSpace c = false
    else markedLabel piece = value
  | none => charsetOf (markedLabel piece) = .utf8

theorem followsParameter_iff (contentType : Text) :
    FollowsParameter contentType ↔
      ∀ piece, markedPiece? contentType = some piece → IsToldBy contentType piece := by
  rw [FollowsParameter, label_eq]
  cases hmarked : markedPiece? contentType with
  | none =>
    have hpiece : charsetPiece? contentType = none := by
      refine List.find?_eq_none.mpr fun piece hmem hcharset => ?_
      have hnot := List.find?_eq_none.mp hmarked piece (List.mem_of_mem_tail hmem)
      exact hnot (occursIn_of_isCharset hcharset)
    simp [charsetValue?, hpiece, charsetOf_nil]
  | some piece =>
    simp only [Option.map_some, Option.getD_some, Option.some.injEq, forall_eq', IsToldBy]
    cases hvalue : charsetValue? contentType with
    | none => rfl
    | some value =>
      by_cases hown : charsetPiece? contentType = some piece
      · simp only [hown, if_true]
        exact markedLabel_eq_iff hown hvalue
      · simp only [hown, if_false]

end ContentType

namespace Response

open ContentType

/-- **The charset of a response is that of its charset parameter**, under this condition exactly:
no piece of the content type holds the mark, or the first one that does tells the label of the
parameter.  Reading and writing use the same charset, that of the label, in any case. -/
theorem label_of_contentType [MultiOctet.Codec] {headers : HeaderLines} {contentType : Text}
    (h : headers.contentType? = some contentType) :
    (∀ request data status version, (ofBytes request headers data status version).content =
      (charsetOf (label contentType)).decode data) ∧
    (∀ request text status version, (ofText request headers text status version).data =
      (charsetOf (label contentType)).encode text) ∧
    (FollowsParameter contentType ↔
      ∀ piece, markedPiece? contentType = some piece → IsToldBy contentType piece) := by
  have hcharset : headers.charset = charsetOf (label contentType) := by
    rw [HeaderLines.charset, h, Option.bind_some, label]
    cases HeaderLines.charsetLabel? contentType with
    | none => exact charsetOf_nil.symm
    | some label => rfl
  refine ⟨fun request data status version => ?_, fun request text status version => ?_,
    followsParameter_iff contentType⟩
  · exact congrArg (Charset.decode · data) hcharset
  · exact congrArg (Charset.encode · text) hcharset

/-- A name in mixed case, a value in quotation marks, and a parameter with two equals signs in front
of the two. -/
theorem label_of_contentType_quoted :
    let contentType : Text := "t/p; q=\"a=b\" ;\tCharSet=\"L1\"; x"
    let headers : HeaderLines := [("content-type", Utf8.encode contentType)]
    headers.contentType? = some contentType ∧ charsetValue? contentType = some ("L1" : Text) ∧
      FollowsParameter contentType ∧
      ∀ [MultiOctet.Codec] request status version,
        (ofBytes request headers [0x48, 0xE9] status version).content = ("Hé" : Text) := by
  intro contentType headers
  have htype : headers.contentType? = some contentType := by decide
  have hvalue : charsetValue? contentType = some ("L1" : Text) := by decide
  have hpiece : charsetPiece? contentType = markedPiece? contentType := by decide
  have hword : ∀ c ∈ ("L1" : Text), c ≠ '"' ∧ Charset.isAsciiSpace c = false := by
    simp [Charset.isAsciiSpace]
  have hfollows : FollowsParameter contentType := by
    refine (@label_of_contentType .ascii _ _ htype).2.2.mpr fun piece hmarked => ?_
    simpa only [IsToldBy, hvalue, hpiece, hmarked, if_true] using hword
  have hlabel : label contentType = ("L1" : Text) := by
    simpa only [FollowsParameter, hvalue] using hfollows
  have hcharset : charsetOf "L1" = .singleOctet .windows1252 :=
    charsetOf_of_mem (show "l1" ∈ SingleOctet.windows1252.labels by decide) (by decide)
  refine ⟨htype, hvalue, hfollows, fun request status version => ?_⟩
  rw [(label_of_contentType htype).1, hlabel, hcharset, Charset.decode]
  decide

/-- A parameter whose name ends as that of the charset parameter is taken for it. -/
theorem label_of_other_name :
    let contentType : Text := "text/plain; xcharset=iso-8859-1"
    let headers : HeaderLines := [("content-type", Utf8.encode contentType)]
    let data : Bytes := [0x41, 0x6D, 0xE9, 0x6C, 0x69, 0x65]
    headers.contentType? = some contentType ∧ charsetValue? contentType = none ∧
      ¬ FollowsParameter contentType ∧
      (∀ [MultiOctet.Codec] request status version,
        (ofBytes request headers data status version).content = ("Amélie" : Text)) ∧
      ∀ [MultiOctet.Codec], Charset.utf8.decode data = ("Am\uFFFDlie" : Text) := by
  intro contentType headers data
  have htype : headers.contentType? = some contentType := by decide
  have hnone : charsetValue? contentType = none := by decide
  have hlabel : HeaderLines.charsetLabel? contentType = some ("iso-8859-1" : Text) := by decide
  have hcharset : Charset.ofLabel? "iso-8859-1" = some (.singleOctet .windows1252) :=
    Charset.ofLabel?_eq_some_iff.mpr
      ⟨"iso-8859-1", show _ ∈ SingleOctet.windows1252.labels by decide, by decide⟩
  have hwestern : data.map (Charset.charOfByte SingleOctet.windows1252.upper) =
      ("Amélie" : Text) := by decide
  refine ⟨htype, hnone, ?_, fun request status version => ?_, ?_⟩
  · rw [FollowsParameter, hnone, label, hlabel, charsetOf, Option.getD_some, hcharset]
    decide
  · have hread : headers.charset = .singleOctet .windows1252 := by
      rw [HeaderLines.charset, htype, Option.bind_some, hlabel, Option.bind_some, hcharset]
      rfl
    rw [ofBytes, hread]
    exact hwestern
  · intro codec
    rw [Charset.decode]
    decide

/-- So is a mark in the value of a parameter in front of it. -/
example : charsetValue? "t/p; x=\"charset=l1\"; charset=utf-8" = some ("utf-8" : Text) ∧
    label "t/p; x=\"charset=l1\"; charset=utf-8" = ("l1" : Text) := by decide

end Response
end OutboundHttp
