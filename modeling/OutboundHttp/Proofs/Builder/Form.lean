import OutboundHttp.Proofs.Builder.Build
import OutboundHttp.Proofs.Builder.Run

/-!
# Forms and methods

A form part is only ever added to a `POST`, and nothing but an operation that sets the
method changes it afterwards.  So a builder with form parts has the method that was set
last since its last part was added, and is a `POST` if none was (`method_of_form`).  The
method can be set to another behind the last part; the form is then sent with that method
(`form_of_get`).
-/
namespace OutboundHttp
namespace Builder

variable {b b' : Builder} {ops : List Operation}

/-! ## Methods -/

/-- The method that an operation sets. -/
def Operation.method? : Operation → Option Method
  | .method m => some m
  | _ => none

/-- The method that was set last. -/
def lastMethod? (ops : List Operation) : Option Method :=
  (ops.filterMap Operation.method?).getLast?

theorem lastMethod?_append_singleton (ops : List Operation) (op : Operation) :
    lastMethod? (ops ++ [op]) = op.method?.or (lastMethod? ops) := by
  rw [lastMethod?, lastMethod?, List.filterMap_append, List.getLast?_append]
  cases h : op.method? <;> simp [h]

theorem method_effect (b : Builder) (op : Operation) :
    (b.effect op).method = op.method?.getD b.method := by
  cases op with
  | addQueryParam place key value replace => cases replace <;> cases place <;> rfl
  | json written => cases written <;> rfl
  | _ => rfl

/-- What an operation can do to the method and the form. -/
theorem form_of_apply {op : Operation} (h : b.apply op = .ok b') :
    b'.method = op.method?.getD b.method ∧
      ((∀ part, op ≠ .addFormPart part) ∧ b'.formParts = b.formParts ∨
        ∃ part, op = .addFormPart part ∧ b.method = .post ∧
          b'.formParts = b.formParts ++ [part]) := by
  rw [eq_effect_of_apply h]
  refine ⟨method_effect b op, ?_⟩
  cases op with
  | addFormPart part =>
    rw [apply] at h
    split at h <;> cases h
    exact Or.inr ⟨part, rfl, ‹_›, rfl⟩
  | addQueryParam place key value replace =>
    cases replace <;> cases place <;> exact Or.inl ⟨by simp, rfl⟩
  | json written => cases written <;> exact Or.inl ⟨by simp, rfl⟩
  | _ => exact Or.inl ⟨by simp, rfl⟩

/-- Since the last part was added the method has been `POST` or what it was set to. -/
theorem Made.exists_last_part (h : Made ops b) (hform : b.formParts ≠ []) :
    ∃ before part after, ops = before ++ .addFormPart part :: after ∧
      (∀ other, .addFormPart other ∉ after) ∧ b.method = (lastMethod? after).getD .post := by
  induction h with
  | ofUri base => exact absurd rfl hform
  | create _ ih => exact ih hform
  | createBuilder factory base => exact absurd rfl hform
  | @apply ops b b' op _ happly ih =>
    -- Either the last part is an earlier one, and the operation comes behind it, or it is
    -- the one that has just been added, to a `POST`.
    obtain ⟨hmethod, ⟨hop, hparts⟩ | ⟨part, rfl, hpost, -⟩⟩ := form_of_apply happly
    · rw [hparts] at hform
      obtain ⟨before, part, after, rfl, hlast, hsince⟩ := ih hform
      refine ⟨before, part, after ++ [op], by simp, fun other hother => ?_, ?_⟩
      · rcases List.mem_append.mp hother with hother | hother
        · exact hlast other hother
        · exact hop other (List.mem_singleton.mp hother).symm
      · rw [hmethod, hsince, lastMethod?_append_singleton]
        cases op.method? <;> rfl
    · exact ⟨ops, part, [], rfl, fun _ => List.not_mem_nil, hmethod.trans hpost⟩

/-! ## Requests -/

/-- The form parts of a builder are the data of its requests. -/
theorem data_of_content {boundary : Text} {content : RequestContent} (hform : b.formParts ≠ [])
    (h : b.content boundary = .ok content) :
    content.data = some (EncodedForm.ofParts boundary b.formParts).body := by
  have hsome : ¬ b.formParts.isEmpty = true := by simpa using hform
  obtain ⟨headers, -, h⟩ := Result.bind_eq_ok_iff.mp h
  rw [if_neg hsome] at h
  obtain ⟨contentType, -, h⟩ := Result.bind_eq_ok_iff.mp h
  rw [← Result.pure_eq_ok_iff.mp h]

/-- **A form belongs to a `POST` until the method is set again.**  A builder with form
parts has the method that was set last since its last part was added, and is a `POST` if
none was.  Whatever request is built from it has this method, and sends the form, unless
a hook puts other data in its place. -/
theorem method_of_form (h : Made ops b) (hform : b.formParts ≠ []) :
    ∃ before part after, ops = before ++ .addFormPart part :: after ∧
      (∀ other, .addFormPart other ∉ after) ∧
      b.method = (lastMethod? after).getD .post ∧
      ∀ boundary request, b.build boundary = .ok request →
        request.method = b.method ∧
          (b.hook = none →
            request.data = some (EncodedForm.ofParts boundary b.formParts).body) := by
  obtain ⟨before, part, after, hops, hlast, hmethod⟩ := h.exists_last_part hform
  refine ⟨before, part, after, hops, hlast, hmethod, fun boundary request hbuild => ?_⟩
  obtain ⟨url, content, -, hcontent, rfl⟩ := exists_of_build hbuild
  refine ⟨rfl, fun hhook => ?_⟩
  rw [requestOf, hhook]
  exact data_of_content hform hcontent

/-- A part is added to a `POST` that then becomes a `PUT`. -/
theorem method_of_form_put :
    ∃ b, Made [.post, .addFormText "a" "b", .method ⟨"PUT"⟩] b ∧ b.formParts ≠ [] ∧
      ∃ before part after,
        [.post, .addFormText "a" "b", .method ⟨"PUT"⟩] =
          before ++ .addFormPart part :: after ∧
        b.method = (lastMethod? after).getD .post := by
  let base : Uri := { text := [] }
  let parts : List FormPart := [.value "a" (Utf8.encode "b")]
  have hpost : Made [.post] { base, method := .post } := (Made.ofUri base).apply rfl
  have hpart : Made [.post, .addFormText "a" "b"] { base, method := .post, formParts := parts } :=
    hpost.apply rfl
  have hput : Made [.post, .addFormText "a" "b", .method ⟨"PUT"⟩]
      { base, method := ⟨"PUT"⟩, formParts := parts } := hpart.apply rfl
  have hform : parts ≠ [] := List.cons_ne_nil _ _
  obtain ⟨before, part, after, hops, -, hmethod, -⟩ := method_of_form hput hform
  exact ⟨_, hput, hform, before, part, after, hops, hmethod⟩

open Uri in
/-- **A form can be sent with another method**, when that is set behind its last part. -/
theorem form_of_get :
    ∃ base request, parse "http://h" = .ok base ∧
      let b := (ofUri base).run [.post, .addFormText "a" "b", .method .get]
      b.formParts ≠ [] ∧ b.method = .get ∧ b.build [] = .ok request ∧
        request.method = .get ∧ request.data = some (Utf8.encode "a=b") :=
  ⟨{ scheme := "http", host := "h", text := "http://h" }, _, rfl,
    List.cons_ne_nil _ _, rfl, rfl, rfl, rfl⟩

end Builder
end OutboundHttp
