import Mathlib.Data.List.Induction
import OutboundHttp.Proofs.Builder.Defaults
import OutboundHttp.Proofs.Builder.Outcome

/-!
# Headers over a run

Headers are written by the defaults and by the operations of a run, under names in any case.
A builder keeps them in lower case, so of two that are written under one name the later one counts
(`headers_of_run`).  A request has besides what it accepts, if that was not written, and the type of
its form, whatever was written (`headers_of_build`).
-/
namespace OutboundHttp

theorem Text.sameIgnoringCase_iff {a b : Text} :
    sameIgnoringCase a b = true ↔ lowerAscii a = lowerAscii b :=
  beq_iff_eq

namespace Header

variable {ν : Type}

/-- A header under its name in lower case. -/
def lowered (header : Text × ν) : Text × ν :=
  (Text.lowerAscii header.1, header.2)

/-- The last value that is written under a name, in any case. -/
def last? (writes : List (Text × ν)) (name : Text) : Option ν :=
  ((writes.filter fun write => Text.sameIgnoringCase name write.1).map Prod.snd).getLast?

theorem last?_concat (writes : List (Text × ν)) (write : Text × ν) (name : Text) :
    last? (writes ++ [write]) name =
      if Text.sameIgnoringCase name write.1 then some write.2 else last? writes name := by
  unfold last?
  rw [List.filter_append]
  cases hname : Text.sameIgnoringCase name write.1 <;> simp [hname]

/-- **Of several headers the last one of a name counts**, if they are kept in lower case. -/
theorem get?_ofList_lowered (writes : List (Text × ν)) (name : Text) :
    (SortedMap.ofList (writes.map lowered)).get? (Text.lowerAscii name) = last? writes name := by
  induction writes using List.reverseRecOn with
  | nil => rfl
  | append_singleton writes write ih =>
    have hlast : SortedMap.ofList ((writes ++ [write]).map lowered) =
        (SortedMap.ofList (writes.map lowered)).insert (Text.lowerAscii write.1) write.2 := by
      rw [List.map_append]
      exact SortedMap.insertMany_append _ _ _
    rw [hlast, SortedMap.get?_insert, ih, last?_concat]
    simp only [Text.sameIgnoringCase_iff]

theorem last?_isSome_iff {writes : List (Text × ν)} {name : Text} :
    (last? writes name).isSome ↔ ∃ write ∈ writes, Text.sameIgnoringCase name write.1 := by
  simp [last?]

end Header

namespace Builder

variable {b : Builder}

/-- The header that an operation writes. -/
def Operation.header? : Operation → Option (Text × Text)
  | .setHeader name value => some (name, value)
  | .json (.ok _) => some ("content-type", "application/json")
  | _ => none

/-- All headers that are written, in order: what the defaults accept, their headers, and those of
the operations. -/
def writtenHeaders (defaults : Option Defaults) (ops : List Operation) : List (Text × Text) :=
  (match defaults with
    | none => []
    | some defaults => ("accept", defaults.accept) :: defaults.headers.entries) ++
  ops.filterMap Operation.header?

/-! ## What is kept -/

theorem headers_effect (b : Builder) (op : Operation) :
    (b.effect op).headers = b.headers.insertMany (op.header?.toList.map Header.lowered) := by
  cases op with
  | addQueryParam place key value replace => cases replace <;> cases place <;> rfl
  | json written => cases written <;> rfl
  | _ => rfl

theorem headers_run (b : Builder) (ops : List Operation) :
    (b.run ops).headers =
      b.headers.insertMany ((ops.filterMap Operation.header?).map Header.lowered) := by
  induction ops generalizing b with
  | nil => rfl
  | cons op ops ih =>
    have hstep : (b.applyOrKeep op).headers = (b.effect op).headers :=
      read_applyOrKeep (fun _ _ => rfl) (fun _ _ => rfl) b op
    rw [run_cons, ih, hstep, headers_effect, ← SortedMap.insertMany_append, ← List.map_append,
      List.filterMap_cons]
    cases op.header? <;> rfl

/-- **A builder keeps each header as it was written last**, under its name in lower case. -/
theorem headers_of_run (base : Uri) (defaults : Option Defaults) (ops : List Operation) :
    ((start base defaults).run ops).headers =
      .ofList ((writtenHeaders defaults ops).map Header.lowered) := by
  rw [headers_run]
  cases defaults with
  | none => rfl
  | some defaults =>
    rw [start, withDefaults_eq, writtenHeaders, List.map_append]
    exact (SortedMap.insertMany_append _ _ _).symm

theorem hasLowerNames_start (base : Uri) (defaults : Option Defaults) :
    HasLowerNames (start base defaults) := by
  cases defaults with
  | none => exact List.forall_mem_nil _
  | some defaults => exact hasLowerNames_run base (defaultOperations defaults)

/-! ## What is sent -/

theorem sentHeaders_some (b : Builder) (form : EncodedForm) :
    b.sentHeaders (some form) =
      (b.sentHeaders none).insert "content-type" (Utf8.encode form.contentType) :=
  rfl

/-- Without a form the headers of the builder are sent, and what is accepted if they do not say it. -/
theorem get?_sentHeaders_none (hb : HasLowerNames b) (name : Text) :
    (b.sentHeaders none).get? name =
      ((b.headers.get? name).or
        (if name = "accept".toList then some defaultAccept else none)).map Utf8.encode := by
  have hsent : b.headers.entries.map Header.sent =
      b.headers.entries.map fun header => (header.1, Utf8.encode header.2) :=
    List.map_congr_left fun header hheader => by rw [Header.sent, hb header hheader]
  rw [sentHeaders, hsent, SortedMap.get?_insertMany_map, SortedMap.get?_insert,
    SortedMap.get?_empty, Option.map_or, apply_ite (Option.map Utf8.encode)]
  rfl

theorem lowerAscii_of_mem_sentHeaders {form? : Option EncodedForm} {header : Text × Bytes}
    (h : header ∈ (b.sentHeaders form?).entries) : Text.lowerAscii header.1 = header.1 := by
  have hnone (h : header ∈ (b.sentHeaders none).entries) : Text.lowerAscii header.1 = header.1 := by
    rcases SortedMap.mem_of_mem_insertMany h with hsent | haccept
    · obtain ⟨write, -, rfl⟩ := List.mem_map.mp hsent
      exact Text.lowerAscii_lowerAscii write.1
    · obtain rfl := List.mem_singleton.mp haccept
      rfl
  cases form? with
  | none => exact hnone h
  | some form =>
    rcases mem_of_mem_insertSorted h with rfl | hrest
    · rfl
    · exact hnone hrest

theorem headers_of_content {boundary : Text} {found : RequestContent}
    (h : b.content boundary = .ok found) :
    found.headers = b.sentHeaders (formOf? boundary b.formParts) := by
  rw [content, Result.bind_eq_ok_iff] at h
  obtain ⟨headers, hsent, h⟩ := h
  rw [sendHeaders_eq] at hsent
  split at hsent
  · cases hsent
  · cases hsent
    unfold formOf?
    split at h
    · cases Result.pure_eq_ok_iff.mp h
      rw [if_pos ‹_›]
      rfl
    · obtain ⟨contentType, hvalue, h⟩ := Result.bind_eq_ok_iff.mp h
      cases Result.pure_eq_ok_iff.mp h
      rw [if_neg ‹_›]
      rw [Header.value?_eq] at hvalue
      split at hvalue <;> cases hvalue
      rfl

/-- A request that is built without a hook has the headers that its builder sends. -/
theorem headers_of_run_build {base : Uri} {defaults : Option Defaults} {ops : List Operation}
    {boundary : Text} {request : Request}
    (hhook : ((start base defaults).run ops).hook = none)
    (h : ((start base defaults).run ops).build boundary = .ok request) :
    request.headers = ((start base defaults).run ops).sentHeaders
      (formOf? boundary (addedParts .get ops)) := by
  obtain ⟨url, found, -, hcontent, rfl⟩ := exists_of_build h
  obtain ⟨-, -, -, hparts, hmethod⟩ := body_start base defaults
  have hform : ((start base defaults).run ops).formParts = addedParts .get ops := by
    rw [formParts_run, hparts, hmethod, List.nil_append]
  rw [← hform, ← headers_of_content hcontent, requestOf, hhook]
  rfl

/-- The value that is sent under a name: the type of the form that the parts make, or else what was
written last, or else what is accepted by default. -/
def sentValue? (boundary : Text) (parts : List FormPart) (writes : List (Text × Text))
    (name : Text) : Option Text :=
  if parts ≠ [] ∧ Text.sameIgnoringCase name "content-type" then
    some (EncodedForm.ofParts boundary parts).contentType
  else
    (Header.last? writes name).or
      (if Text.sameIgnoringCase name "accept" then some defaultAccept else none)

theorem get?_sentHeaders (base : Uri) (defaults : Option Defaults) (ops : List Operation)
    (boundary : Text) (parts : List FormPart) (name : Text) :
    (((start base defaults).run ops).sentHeaders (formOf? boundary parts)).get?
        (Text.lowerAscii name) =
      (sentValue? boundary parts (writtenHeaders defaults ops) name).map Utf8.encode := by
  have haccept : Text.sameIgnoringCase name "accept" ↔ Text.lowerAscii name = "accept".toList :=
    Text.sameIgnoringCase_iff
  have htype : Text.sameIgnoringCase name "content-type" ↔
      Text.lowerAscii name = "content-type".toList :=
    Text.sameIgnoringCase_iff
  have hwritten : (((start base defaults).run ops).sentHeaders none).get? (Text.lowerAscii name) =
      ((Header.last? (writtenHeaders defaults ops) name).or
        (if Text.sameIgnoringCase name "accept" then some defaultAccept else none)).map
          Utf8.encode := by
    rw [get?_sentHeaders_none ((hasLowerNames_start base defaults).run ops), headers_of_run,
      Header.get?_ofList_lowered]
    simp only [haccept]
  by_cases hparts : parts = []
  · rw [sentValue?, if_neg fun h => h.1 hparts, formOf?, if_pos (List.isEmpty_iff.mpr hparts)]
    exact hwritten
  · rw [formOf?, if_neg fun h => hparts (List.isEmpty_iff.mp h), sentHeaders_some,
      SortedMap.get?_insert, hwritten, sentValue?]
    by_cases hname : Text.sameIgnoringCase name "content-type" = true
    · rw [if_pos (htype.mp hname), if_pos ⟨hparts, hname⟩]
      rfl
    · have hnone : ¬ (parts ≠ [] ∧ Text.sameIgnoringCase name "content-type") :=
        fun h => hname h.2
      rw [if_neg (mt htype.mpr hname), if_neg hnone]

theorem sentValue?_isSome_iff {boundary name : Text} {parts : List FormPart}
    {writes : List (Text × Text)} :
    (sentValue? boundary parts writes name).isSome ↔
      (∃ write ∈ writes, Text.sameIgnoringCase name write.1) ∨
        Text.sameIgnoringCase name "accept" ∨
          parts ≠ [] ∧ Text.sameIgnoringCase name "content-type" := by
  rw [← Header.last?_isSome_iff, sentValue?]
  split
  · next hform => exact iff_of_true rfl (Or.inr (Or.inr hform))
  · next hform =>
    rw [iff_false_intro hform, or_false, Option.isSome_or, Bool.or_eq_true, Option.isSome_ite]

theorem getD_sentValue? (boundary : Text) (parts : List FormPart) (writes : List (Text × Text))
    (name : Text) :
    (sentValue? boundary parts writes name).getD defaultAccept =
      if parts ≠ [] ∧ Text.sameIgnoringCase name "content-type" then
        (EncodedForm.ofParts boundary parts).contentType
      else (Header.last? writes name).getD defaultAccept := by
  unfold sentValue?
  split
  · rfl
  · cases Header.last? writes name with
    | some value => rfl
    | none => cases Text.sameIgnoringCase name "accept" <;> rfl

/-- **The headers of a request that is built without a hook.**  There is one for each name, in any
case: for those that were written, for what is accepted, and for the type of a form if there is
one.  The value is the type of the form, or else what was written last, or else what is accepted by
default. -/
theorem headers_of_build {base : Uri} {defaults : Option Defaults} {ops : List Operation}
    {boundary : Text} {request : Request}
    (hhook : ((start base defaults).run ops).hook = none)
    (h : ((start base defaults).run ops).build boundary = .ok request) :
    let parts := addedParts .get ops
    let writes := writtenHeaders defaults ops
    request.headers.entries.Pairwise (fun a b => ¬ Text.sameIgnoringCase a.1 b.1) ∧
      (∀ name, (∃ header ∈ request.headers.entries, Text.sameIgnoringCase name header.1) ↔
        (∃ write ∈ writes, Text.sameIgnoringCase name write.1) ∨
          Text.sameIgnoringCase name "accept" ∨
            parts ≠ [] ∧ Text.sameIgnoringCase name "content-type") ∧
      ∀ header ∈ request.headers.entries, header.2 = Utf8.encode
        (if parts ≠ [] ∧ Text.sameIgnoringCase header.1 "content-type" then
          (EncodedForm.ofParts boundary parts).contentType
        else (Header.last? writes header.1).getD defaultAccept) := by
  intro parts writes
  have hlower (header : Text × Bytes) (hheader : header ∈ request.headers.entries) :
      Text.lowerAscii header.1 = header.1 := by
    rw [headers_of_run_build hhook h] at hheader
    exact lowerAscii_of_mem_sentHeaders hheader
  have hget (name : Text) : request.headers.get? (Text.lowerAscii name) =
      (sentValue? boundary parts writes name).map Utf8.encode := by
    rw [headers_of_run_build hhook h]
    exact get?_sentHeaders base defaults ops boundary parts name
  refine ⟨request.headers.pairwise_ne.imp_of_mem fun ha hb hne hsame => ?_, fun name => ?_,
    fun header hheader => ?_⟩
  · rw [Text.sameIgnoringCase_iff, hlower _ ha, hlower _ hb] at hsame
    exact hne hsame
  · rw [← @sentValue?_isSome_iff boundary, ← Option.isSome_map, ← hget, Option.isSome_iff_exists]
    constructor
    · rintro ⟨header, hheader, hsame⟩
      rw [Text.sameIgnoringCase_iff, hlower header hheader] at hsame
      exact ⟨header.2, SortedMap.get?_eq_some_iff.mpr (hsame ▸ hheader)⟩
    · rintro ⟨value, hvalue⟩
      refine ⟨_, SortedMap.get?_eq_some_iff.mp hvalue, Text.sameIgnoringCase_iff.mpr ?_⟩
      exact (Text.lowerAscii_lowerAscii name).symm
  · have hvalue : request.headers.get? (Text.lowerAscii header.1) = some header.2 := by
      rw [hlower header hheader]
      exact SortedMap.get?_eq_some_iff.mpr hheader
    rw [hget, Option.map_eq_some_iff] at hvalue
    obtain ⟨value, hsent, hencoded⟩ := hvalue
    rw [← getD_sentValue?, hsent]
    exact hencoded.symm

/-- What the defaults accept gives way to their own header, their other one to that of the run, and
a content type to that of the form. -/
theorem headers_of_build_post :
    ∃ base request, Uri.parse "http://h" = .ok base ∧
      let defaults : Defaults := {
        accept := "a/b"
        headers := .ofList [("Accept", "c/d"), ("X-A", "1")] }
      let ops : List Operation := [
        .setHeader "x-a" "2", .post, .addFormText "n" "v", .setHeader "Content-Type" "e/f"]
      let b := (start base (some defaults)).run ops
      b.hook = none ∧ b.build (Boundary.ofTicks 0) = .ok request ∧
        request.headers.entries.Pairwise (fun a b => ¬ Text.sameIgnoringCase a.1 b.1) ∧
        (∃ header ∈ request.headers.entries, Text.sameIgnoringCase "X-A" header.1) ∧
        (∀ value, ("accept".toList, value) ∈ request.headers.entries → value = Utf8.encode "c/d") ∧
        (∀ value, ("x-a".toList, value) ∈ request.headers.entries → value = Utf8.encode "2") ∧
        ∀ value, ("content-type".toList, value) ∈ request.headers.entries →
          value = Utf8.encode "application/x-www-form-urlencoded" := by
  let base : Uri := { scheme := "http", host := "h", text := "http://h" }
  let defaults : Defaults := {
    accept := "a/b"
    headers := .ofList [("Accept", "c/d"), ("X-A", "1")] }
  let ops : List Operation := [
    .setHeader "x-a" "2", .post, .addFormText "n" "v", .setHeader "Content-Type" "e/f"]
  have hhook : ((start base (some defaults)).run ops).hook = none := rfl
  have hurl : ((start base (some defaults)).run ops).resolveUrl = .ok base := by decide +kernel
  have hfault : ((start base (some defaults)).run ops).headers.entries.findSome?
      Header.fault? = none := by decide +kernel
  obtain ⟨request, hbuild⟩ :
      ∃ request, ((start base (some defaults)).run ops).build (Boundary.ofTicks 0) = .ok request := by
    rw [build_of_written isValue_contentType rfl rfl rfl rfl rfl, hurl]
    simp only [hfault]
    exact ⟨_, rfl⟩
  obtain ⟨hpairwise, hnames, hvalues⟩ := headers_of_build hhook hbuild
  refine ⟨base, request, rfl, hhook, hbuild, hpairwise, ?_, fun value hvalue => ?_,
    fun value hvalue => ?_, fun value hvalue => ?_⟩
  · exact (hnames "X-A").mpr (Or.inl ⟨("x-a", "2"), by decide, by decide⟩)
  · exact (hvalues _ hvalue).trans rfl
  · exact (hvalues _ hvalue).trans rfl
  · exact (hvalues _ hvalue).trans rfl

end Builder
end OutboundHttp
