import OutboundHttp.Proofs.Builder.Form
import OutboundHttp.Proofs.Builder.Options
import OutboundHttp.Proofs.Text.Digits

/-!
# What comes of building after a run

A request has the body that was set last, or a form of the parts that were added, and the
summary that was set last, or else that of its form.  All of this can be read off the operations
of a run, in which those that fail count for nothing (`body_run`, `formParts_run`), and so can
the reasons for which there is no request, but for those that lie in the url or in the headers
(`build_of_run`).
-/
namespace OutboundHttp
namespace Builder

variable {b : Builder}

/-! ## Bodies -/

namespace Operation

/-- What came of the JSON text that an operation sets as the body. -/
def json? : Operation → Option (Except Text Text)
  | .json written => some written
  | _ => none

/-- The body that an operation sets. -/
def body? : Operation → Option Bytes
  | .body data => some data
  | .json (.ok text) => some (Utf8.encode text)
  | _ => none

/-- The summary that an operation sets. -/
def summary? : Operation → Option Text
  | .contentSummary summary => some summary
  | .json (.ok text) => some text
  | _ => none

/-- The part that an operation adds to a form. -/
def part? : Operation → Option FormPart
  | .addFormPart part => some part
  | _ => none

end Operation

/-- Why JSON text could not be written. -/
def jsonFault? : Except Text Text → Option Text
  | .ok _ => none
  | .error message => some message

theorem body_effect (b : Builder) (op : Operation) :
    (b.effect op).bodyError = (op.json?.map jsonFault?).getD b.bodyError ∧
      (b.effect op).body = (op.body?.map some).getD b.body ∧
      (b.effect op).contentSummary = (op.summary?.map some).getD b.contentSummary := by
  cases op with
  | addQueryParam place key value replace =>
    cases replace <;> cases place <;> exact ⟨rfl, rfl, rfl⟩
  | json written => cases written <;> exact ⟨rfl, rfl, rfl⟩
  | _ => exact ⟨rfl, rfl, rfl⟩

/-- **A run leaves the body and the summary that it sets last**, and what came of the JSON text
that it was given last. -/
theorem body_run (b : Builder) (ops : List Operation) :
    (b.run ops).bodyError = ((lastSet? Operation.json? ops).map jsonFault?).getD b.bodyError ∧
      (b.run ops).body = (lastSet? Operation.body? ops).or b.body ∧
      (b.run ops).contentSummary = (lastSet? Operation.summary? ops).or b.contentSummary := by
  have hor {α : Type} (x y : Option α) : (x.map some).getD y = x.or y := by cases x <;> rfl
  rw [← hor, ← hor]
  refine ⟨?_, ?_, ?_⟩
  · exact read_run bodyError (fun _ _ => rfl) (fun _ _ => rfl)
      (fun b op => (body_effect b op).1) b ops
  · exact read_run body (fun _ _ => rfl) (fun _ _ => rfl)
      (fun b op => (body_effect b op).2.1) b ops
  · exact read_run contentSummary (fun _ _ => rfl) (fun _ _ => rfl)
      (fun b op => (body_effect b op).2.2) b ops

/-! ## Forms -/

/-- The parts that operations add to a form, from a method on: those that come while the method
is `POST`. -/
def addedParts : Method → List Operation → List FormPart
  | _, [] => []
  | method, op :: ops =>
    (if method = .post then op.part?.toList else []) ++ addedParts (op.method?.getD method) ops

theorem method_of_applyOrKeep (b : Builder) (op : Operation) :
    (b.applyOrKeep op).method = op.method?.getD b.method :=
  (read_applyOrKeep (fun _ _ => rfl) (fun _ _ => rfl) b op).trans (method_effect b op)

theorem formParts_of_applyOrKeep (b : Builder) (op : Operation) :
    (b.applyOrKeep op).formParts =
      b.formParts ++ if b.method = .post then op.part?.toList else [] := by
  unfold applyOrKeep
  split
  · obtain ⟨-, ⟨hop, hparts⟩ | ⟨part, rfl, hpost, hparts⟩⟩ := form_of_apply ‹_›
    · have hnone : op.part? = none := by
        cases op with
        | addFormPart part => exact absurd rfl (hop part)
        | _ => rfl
      simp [hparts, hnone]
    · rw [hparts, if_pos hpost]
      rfl
  · obtain ⟨token, value, unchecked, rfl⟩ | ⟨part, rfl, hmethod⟩ := exists_of_apply_error ‹_›
    · simp [Operation.part?]
    · simp [hmethod]

/-- **A run adds its parts behind those of the form.** -/
theorem formParts_run (b : Builder) (ops : List Operation) :
    (b.run ops).formParts = b.formParts ++ addedParts b.method ops := by
  induction ops generalizing b with
  | nil => exact (List.append_nil _).symm
  | cons op ops ih =>
    rw [run_cons, ih, formParts_of_applyOrKeep, method_of_applyOrKeep, addedParts,
      List.append_assoc]

/-! ## Content -/

/-- The form that some parts make, if there are any. -/
def formOf? (boundary : Text) (parts : List FormPart) : Option EncodedForm :=
  if parts.isEmpty then none else some (.ofParts boundary parts)

/-- The type of a form can be sent. -/
theorem isValue_contentType {ticks : Nat} (parts : List FormPart) :
    Header.IsValue (EncodedForm.ofParts (Boundary.ofTicks ticks) parts).contentType := by
  have hboundary : Header.IsValue (Boundary.ofTicks ticks) := by
    refine Header.isValue_of_visible fun c hc => ?_
    rcases List.mem_append.mp hc with hc | hc
    · rw [List.eq_of_mem_replicate hc]
      decide
    · obtain ⟨hleast, hmost⟩ := Text.toNat_of_mem_hexOfNat hc
      omega
  unfold EncodedForm.ofParts
  split
  · have hlabel : Header.IsValue "multipart/form-data; boundary=" := by decide
    exact hlabel.append hboundary
  · have hplain : Header.IsValue "application/x-www-form-urlencoded" := by decide
    exact hplain

/-- The headers that are sent with a form, or without one. -/
def sentHeaders (b : Builder) (form? : Option EncodedForm) : SortedMap Text Bytes :=
  let headers := (SortedMap.empty.insert "accept".toList (Utf8.encode defaultAccept)).insertMany
    (b.headers.entries.map Header.sent)
  match form? with
  | none => headers
  | some form => headers.insert "content-type" (Utf8.encode form.contentType)

/-- **The content of a request**, unless one of its headers cannot be sent. -/
theorem content_eq {boundary : Text} (hboundary : ∀ parts,
      Header.IsValue (EncodedForm.ofParts boundary parts).contentType) :
    let form? := formOf? boundary b.formParts
    b.content boundary =
      match b.headers.entries.findSome? Header.fault? with
      | some e => .error e
      | none => .ok {
          headers := b.sentHeaders form?
          data := (form?.map (·.body)).or b.body
          summary := b.contentSummary.or (form?.map (·.summary)) } := by
  intro form?
  simp only [content, sendHeaders_eq]
  cases b.headers.entries.findSome? Header.fault? with
  | some e => rfl
  | none =>
    simp only [form?, formOf?]
    cases hparts : b.formParts.isEmpty with
    | true => simp [sentHeaders]
    | false => simp [sentHeaders, Header.value?_eq, hboundary]

/-! ## Requests -/

/-- What a builder comes to if its body could be written. -/
theorem build_of_written {boundary : Text} {body : Option Bytes} {parts : List FormPart}
    {summary : Option Text} {form? : Option EncodedForm}
    (hboundary : ∀ parts, Header.IsValue (EncodedForm.ofParts boundary parts).contentType)
    (hwritten : b.bodyError = none) (hbody : b.body = body) (hparts : b.formParts = parts)
    (hsummary : b.contentSummary = summary) (hform : form? = formOf? boundary parts) :
    b.build boundary =
      if body.isSome ∧ parts ≠ [] then .error .bodyAndForm
      else match b.resolveUrl with
        | .error e => .error (.uri e)
        | .ok url =>
          match b.headers.entries.findSome? Header.fault? with
          | some e => .error e
          | none => .ok (b.requestOf url {
              headers := b.sentHeaders form?
              data := (form?.map (·.body)).or body
              summary := summary.or (form?.map (·.summary)) }) := by
  subst hbody hparts hsummary hform
  have hiff : (b.body.isSome && !b.formParts.isEmpty) = true ↔
      b.body.isSome ∧ b.formParts ≠ [] := by simp
  by_cases hboth : b.body.isSome ∧ b.formParts ≠ []
  · rw [if_pos hboth]
    exact build_of_bodyAndForm hwritten (hiff.mpr hboth)
  · rw [if_neg hboth, build_eq hwritten (eq_false_of_ne_true fun h => hboth (hiff.mp h)),
      content_eq hboundary]
    cases b.resolveUrl with
    | error e => rfl
    | ok url =>
      cases b.headers.entries.findSome? Header.fault? <;> rfl

/-- A builder that no operation has changed has no body and no form. -/
theorem body_start (base : Uri) (defaults : Option Defaults) :
    (start base defaults).bodyError = none ∧ (start base defaults).body = none ∧
      (start base defaults).contentSummary = none ∧ (start base defaults).formParts = [] ∧
      (start base defaults).method = .get := by
  cases defaults with
  | none => exact ⟨rfl, rfl, rfl, rfl, rfl⟩
  | some defaults =>
    rw [start, withDefaults_eq]
    exact ⟨rfl, rfl, rfl, rfl, rfl⟩

/-- **What comes of building after a run.**  The JSON text that was given last decides if it could
not be written, whatever came after it.  Otherwise there is no request from a body together with
a form, none if the url cannot be resolved, and none if one of the headers cannot be sent.  In all
other cases there is one, made of the form or else of the body that was set last, and of the
summary that was set last or else that of the form; this is what a hook is given.  What becomes
of more headers than a header map has room for is not said (`sendHeaders`). -/
theorem build_of_run (base : Uri) (defaults : Option Defaults) (ops : List Operation)
    (ticks : Nat) :
    let b := (start base defaults).run ops
    let parts := addedParts .get ops
    let form? := formOf? (Boundary.ofTicks ticks) parts
    b.build (Boundary.ofTicks ticks) =
      match lastSet? Operation.json? ops with
      | some (.error message) => .error (.serialization message)
      | _ =>
        if (lastSet? Operation.body? ops).isSome ∧ parts ≠ [] then .error .bodyAndForm
        else match b.resolveUrl with
          | .error e => .error (.uri e)
          | .ok url =>
            match b.headers.entries.findSome? Header.fault? with
            | some e => .error e
            | none => .ok (b.requestOf url {
                headers := b.sentHeaders form?
                data := (form?.map (·.body)).or (lastSet? Operation.body? ops)
                summary := (lastSet? Operation.summary? ops).or (form?.map (·.summary)) }) := by
  intro b parts form?
  obtain ⟨hjson₀, hbody₀, hsummary₀, hparts₀, hmethod₀⟩ := body_start base defaults
  obtain ⟨hjson, hbody, hsummary⟩ := body_run (start base defaults) ops
  rw [hjson₀] at hjson
  split
  · next message hlast =>
    rw [hlast] at hjson
    exact build_of_bodyError hjson
  · next hlast =>
    have hwritten : b.bodyError = none := by
      cases hwas : lastSet? Operation.json? ops with
      | none =>
        rw [hjson, hwas]
        rfl
      | some written =>
        cases written with
        | ok text =>
          rw [hjson, hwas]
          rfl
        | error message => exact absurd hwas (hlast message)
    have hbody : b.body = lastSet? Operation.body? ops := by rw [hbody, hbody₀, Option.or_none]
    have hsummary : b.contentSummary = lastSet? Operation.summary? ops := by
      rw [hsummary, hsummary₀, Option.or_none]
    have hparts : b.formParts = parts := by
      rw [formParts_run, hparts₀, hmethod₀, List.nil_append]
    have hform : form? = formOf? (Boundary.ofTicks ticks) parts := rfl
    -- Its arguments are not left to be found in the goal, where the url would be worked out.
    have hbuild := build_of_written isValue_contentType hwritten hbody hparts hsummary hform
    exact hbuild

/-- A new builder with one header does not come to a request if the name is too long. -/
theorem build_setHeader_of_long {base url : Uri} (hurl : (ofUri base).resolveUrl = .ok url)
    {name : Text} (hlong : Header.longestName < name.length) (value boundary : Text) :
    ((ofUri base).setHeader name value).build boundary = .error .headerName := by
  have hurl : ((ofUri base).setHeader name value).resolveUrl = .ok url := hurl
  have hentries : ((ofUri base).setHeader name value).headers.entries =
      [(Text.lowerAscii name, value)] := rfl
  have hfault : Header.fault? (Text.lowerAscii name, value) = some .headerName := by
    refine if_pos fun h => Nat.not_le_of_lt hlong ?_
    rw [← List.length_map Char.toLower]
    exact h.2
  have hcontent : ((ofUri base).setHeader name value).content boundary = .error .headerName := by
    simp only [content, sendHeaders_eq, hentries, List.findSome?_cons, hfault]
    rfl
  rw [build_eq rfl rfl, hurl, hcontent]
  rfl

open Uri in
/-- **A header name can be too long**, though it is a token, its value can be sent, and nothing
else is in the way of a request. -/
theorem build_of_long_name :
    ∃ base url, parse "http://h" = .ok base ∧
      let ops : List Operation := [.setHeader (List.replicate 65536 'a') "x"]
      let b := (start base none).run ops
      lastSet? Operation.json? ops = none ∧ lastSet? Operation.body? ops = none ∧
        addedParts .get ops = [] ∧ b.resolveUrl = .ok url ∧
        (∀ header ∈ b.headers.entries, Header.IsToken header.1 ∧ Header.IsValue header.2) ∧
        ∀ boundary, b.build boundary = .error .headerName := by
  let base : Uri := { scheme := "http", host := "h", text := "http://h" }
  have hurl : (ofUri base).resolveUrl = .ok base := by decide +kernel
  -- Under a name of its own the long text is not worked out.
  obtain ⟨name, hname⟩ : ∃ name : Text, name = List.replicate 65536 'a' := ⟨_, rfl⟩
  rw [← hname]
  refine ⟨base, base, rfl, rfl, rfl, rfl, hurl, fun header hheader => ?_, fun boundary => ?_⟩
  · have heq : header = (Text.lowerAscii name, ("x" : Text)) := List.mem_singleton.mp hheader
    have hlower : Text.lowerAscii name = List.replicate 65536 'a' := by
      rw [hname]
      exact List.map_replicate
    rw [heq, hlower]
    refine ⟨⟨?_, fun c hc => ?_⟩, by decide⟩
    · exact List.cons_ne_nil _ _
    · rw [List.eq_of_mem_replicate hc]
      decide
  · refine build_setHeader_of_long hurl ?_ "x" boundary
    rw [hname, List.length_replicate]
    decide

end Builder
end OutboundHttp
