import OutboundHttp.Builder.Defaults
import OutboundHttp.Proofs.Builder.Options
import OutboundHttp.Proofs.Data.SortedMap
import OutboundHttp.Proofs.Request.Header

/-!
# A builder with the built-in defaults

A new builder leaves it to its requests what they accept, and one that starts from the built-in
defaults says so itself; nothing else tells the two apart.  Every operation does the same to both
(`apply_fillAccept`), and in what they are built to there is no difference left
(`build_fillAccept`), so that no run of operations ever shows which of the two it started from
(`run_withDefaults_builtIn`).
-/
namespace OutboundHttp

/-- A letter in lower case is no upper-case letter. -/
theorem Text.lowerAscii_lowerAscii (text : Text) :
    lowerAscii (lowerAscii text) = lowerAscii text := by
  have hchar (c : Char) : c.toLower.toLower = c.toLower := by
    by_cases h : 'A'.val ≤ c.val ∧ c.val ≤ 'Z'.val
    · have hval : c.toLower.val = c.val + 32 := congrArg Char.val (dif_pos h)
      refine dif_neg fun hupper => ?_
      rw [hval] at hupper
      grind
    · have hlower : c.toLower = c := dif_neg h
      rw [hlower, hlower]
  rw [lowerAscii, lowerAscii, List.map_map]
  exact List.map_congr_left fun c _ => hchar c

/-- The headers with what is accepted, if they do not say it. -/
def fillAccept (headers : SortedMap Text Text) : SortedMap Text Text :=
  headers.insert "accept" ((headers.get? "accept").getD defaultAccept)

/-- What is accepted can be filled in before a header is set or behind it. -/
theorem fillAccept_insert (headers : SortedMap Text Text) (name value : Text) :
    fillAccept (headers.insert name value) = (fillAccept headers).insert name value := by
  unfold fillAccept
  rw [SortedMap.get?_insert]
  by_cases h : "accept".toList = name
  · rw [if_pos h, ← h, SortedMap.insert_insert, SortedMap.insert_insert]
    rfl
  · rw [if_neg h, SortedMap.insert_comm _ (Ne.symm h)]

namespace Builder

variable {b b' : Builder} {boundary : Text}

/-- The builder with what is accepted among its headers. -/
def fillAccept (b : Builder) : Builder :=
  { b with headers := OutboundHttp.fillAccept b.headers }

/-! ## Operations -/

theorem setHeader_fillAccept (b : Builder) (name value : Text) :
    b.fillAccept.setHeader name value = (b.setHeader name value).fillAccept := by
  simp only [setHeader, fillAccept, fillAccept_insert]

theorem resolveUrl_fillAccept (b : Builder) : b.fillAccept.resolveUrl = b.resolveUrl :=
  rfl

theorem setSegment_fillAccept (b : Builder) (token value : Text) (unchecked : Bool) :
    b.fillAccept.setSegment token value unchecked =
      (b.setSegment token value unchecked).map fillAccept := by
  cases unchecked with
  | true => rfl
  | false =>
    simp only [setSegment, resolveUrl_fillAccept]
    cases b.resolveUrl with
    | error e => rfl
    | ok url =>
      cases hoccurs : Text.occursIn (segmentKey token) url.text <;> simp [hoccurs] <;> rfl

/-- **Every operation does the same** whether or not what is accepted has been filled in. -/
theorem apply_fillAccept (b : Builder) (op : Operation) :
    b.fillAccept.apply op = (b.apply op).map fillAccept := by
  cases op with
  | setSegment token value unchecked => exact setSegment_fillAccept b token value unchecked
  | addQueryParam place key value replace => cases replace <;> cases place <;> rfl
  | setHeader name value => exact congrArg Except.ok (setHeader_fillAccept b name value)
  | json written =>
    cases written with
    | ok text =>
      let written : Builder := { b with
        body := some (Utf8.encode text), contentSummary := some text, bodyError := none }
      exact congrArg Except.ok
        (setHeader_fillAccept written "content-type" "application/json")
    | error message => rfl
  | addFormPart part =>
    by_cases hpost : b.method = .post
    · have hfilled : b.fillAccept.method = .post := hpost
      rw [apply, apply, if_pos hpost, if_pos hfilled]
      rfl
    · have hfilled : ¬ b.fillAccept.method = .post := hpost
      rw [apply, apply, if_neg hpost, if_neg hfilled]
      rfl
  | _ => rfl

theorem applyOrKeep_fillAccept (b : Builder) (op : Operation) :
    b.fillAccept.applyOrKeep op = (b.applyOrKeep op).fillAccept := by
  rw [applyOrKeep, applyOrKeep, apply_fillAccept]
  cases b.apply op <;> rfl

theorem run_fillAccept (b : Builder) (ops : List Operation) :
    b.fillAccept.run ops = (b.run ops).fillAccept := by
  induction ops generalizing b with
  | nil => rfl
  | cons op ops ih =>
    rw [run_cons, run_cons, applyOrKeep_fillAccept, ih]

theorem withDefaults_builtIn (base : Uri) : withDefaults base {} = (ofUri base).fillAccept := by
  have hrate : Duration.ofSeconds? ({} : Defaults).rateLimitSecs = some .zero := by
    decide +kernel
  rw [withDefaults_eq, hrate]
  rfl

/-! ## Header names -/

/-- What an operation can do to the headers. -/
theorem headers_of_apply {op : Operation} (h : b.apply op = .ok b') :
    b'.headers = b.headers ∨
      ∃ name value, b'.headers = b.headers.insert (Text.lowerAscii name) value := by
  rw [eq_effect_of_apply h]
  cases op with
  | setHeader name value => exact Or.inr ⟨name, value, rfl⟩
  | json written =>
    cases written with
    | ok text => exact Or.inr ⟨"content-type", "application/json", rfl⟩
    | error message => exact Or.inl rfl
  | addQueryParam place key value replace =>
    cases replace <;> cases place <;> exact Or.inl rfl
  | _ => exact Or.inl rfl

/-- The names of the headers are in lower case. -/
def HasLowerNames (b : Builder) : Prop :=
  ∀ header ∈ b.headers.entries, Text.lowerAscii header.1 = header.1

theorem HasLowerNames.apply (hb : HasLowerNames b) {op : Operation} (h : b.apply op = .ok b') :
    HasLowerNames b' := by
  rcases headers_of_apply h with hheaders | ⟨name, value, hheaders⟩
  · rwa [HasLowerNames, hheaders]
  · intro header hheader
    rw [hheaders] at hheader
    rcases mem_of_mem_insertSorted hheader with rfl | hheader
    · exact Text.lowerAscii_lowerAscii name
    · exact hb header hheader

theorem HasLowerNames.run (hb : HasLowerNames b) (ops : List Operation) :
    HasLowerNames (b.run ops) :=
  run_preserves (fun hb h => hb.apply h) hb ops

theorem hasLowerNames_run (base : Uri) (ops : List Operation) :
    HasLowerNames ((ofUri base).run ops) :=
  @HasLowerNames.run (ofUri base) (List.forall_mem_nil _) ops

/-! ## Requests -/

/-- A header that is among those sent already can be left out. -/
theorem sendHeaders_cons_of_sent {headers : SortedMap Text Bytes} {header : Text × Text}
    (hok : Header.IsSendable header)
    (hsent : headers.get? (Header.sent header).1 = some (Header.sent header).2)
    (rest : List (Text × Text)) :
    sendHeaders headers (header :: rest) = sendHeaders headers rest := by
  rw [sendHeaders_cons, Header.fault?_eq_none_iff.mpr hok, SortedMap.insert_of_get? hsent]

/-- It can also be left out behind others, if none of them is sent by its name. -/
theorem sendHeaders_insertSorted {headers : SortedMap Text Bytes} {name value : Text}
    {l : List (Text × Text)} (hok : Header.IsSendable (name, value))
    (hsent : headers.get? (Header.sent (name, value)).1 = some (Header.sent (name, value)).2)
    (hnew : ∀ header ∈ l, (Header.sent header).1 ≠ (Header.sent (name, value)).1) :
    sendHeaders headers (insertSorted name value l) = sendHeaders headers l := by
  induction l generalizing headers with
  | nil => exact sendHeaders_cons_of_sent hok hsent []
  | cons header l ih =>
    obtain ⟨hheader, hnew⟩ := List.forall_mem_cons.mp hnew
    rw [insertSorted]
    split
    · exact sendHeaders_cons_of_sent hok hsent (header :: l)
    · split
      · next _ heq => exact absurd (congrArg Text.lowerAscii heq.symm) hheader
      · rw [sendHeaders_cons, sendHeaders_cons]
        cases Header.fault? header with
        | some e => rfl
        | none =>
          refine ih ?_ hnew
          rw [SortedMap.get?_insert, if_neg hheader.symm, hsent]

/-- What is accepted is sent even if the headers do not say it. -/
theorem sendHeaders_fillAccept (hb : HasLowerNames b) :
    sendHeaders (SortedMap.empty.insert "accept".toList (Utf8.encode defaultAccept))
        b.fillAccept.headers.entries =
      sendHeaders (SortedMap.empty.insert "accept".toList (Utf8.encode defaultAccept))
        b.headers.entries := by
  have hfilled : b.fillAccept.headers =
      b.headers.insert "accept" ((b.headers.get? "accept").getD defaultAccept) := rfl
  rw [hfilled]
  cases hget : b.headers.get? "accept" with
  | some value =>
    rw [Option.getD_some, SortedMap.insert_of_get? hget]
  | none =>
    have hok : Header.IsSendable ("accept", defaultAccept) := by decide
    refine sendHeaders_insertSorted hok rfl fun header hheader hname => ?_
    have haccept : header.1 = "accept".toList := (hb header hheader).symm.trans hname
    have hmem : ("accept".toList, header.2) ∈ b.headers.entries := haccept ▸ hheader
    rw [SortedMap.get?_eq_some_iff.mpr hmem] at hget
    cases hget

/-- **The same is built** whether or not what is accepted has been filled in. -/
theorem build_fillAccept (hb : HasLowerNames b) (boundary : Text) :
    b.fillAccept.build boundary = b.build boundary := by
  have hcontent : b.fillAccept.content boundary = b.content boundary := by
    simp only [content, sendHeaders_fillAccept hb]
    rfl
  unfold build
  rw [hcontent]
  rfl

/-- **A builder with the built-in defaults is like a new one.**  After any run of operations
each operation does the same to both and fails with the same error, their urls are the same, and
so are the requests that are built from them. -/
theorem run_withDefaults_builtIn (base : Uri) (ops : List Operation) :
    let new := (ofUri base).run ops
    let given := (withDefaults base {}).run ops
    (∀ op e, given.apply op = .error e ↔ new.apply op = .error e) ∧
      given.resolveUrl = new.resolveUrl ∧
      ∀ boundary, given.build boundary = new.build boundary := by
  intro new given
  have hgiven : given = new.fillAccept := by
    rw [← run_fillAccept, ← withDefaults_builtIn]
  refine ⟨fun op e => ?_, ?_, fun boundary => ?_⟩
  · rw [hgiven, apply_fillAccept]
    cases new.apply op <;> simp [Except.map]
  · rw [hgiven, resolveUrl_fillAccept]
  · rw [hgiven, build_fillAccept (hasLowerNames_run base ops)]

end Builder
end OutboundHttp
