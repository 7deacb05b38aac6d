import OutboundHttp.Builder.Build
import OutboundHttp.Proofs.Data.Result
import OutboundHttp.Proofs.Request.Header

/-!
# What building comes to

A builder is looked at for its body, its form, its url and its headers, in this order
(`build_cases`).  Only the url can fail as a
url (`resolveUrl_of_build_error`).
-/
namespace OutboundHttp
namespace Builder

variable {b : Builder} {boundary : Text}

theorem build_of_bodyError {message : Text} (h : b.bodyError = some message) :
    b.build boundary = .error (.serialization message) := by
  unfold build
  rw [h]
  rfl

theorem build_of_bodyAndForm (herror : b.bodyError = none)
    (hboth : (b.body.isSome && !b.formParts.isEmpty) = true) :
    b.build boundary = .error .bodyAndForm := by
  unfold build
  rw [herror, hboth]
  rfl

/-- The request of a builder, once its url and content are known. -/
def requestOf (b : Builder) (url : Uri) (content : RequestContent) : Request where
  toRequestContent := (b.hook.getD id) content
  url := url
  method := b.method
  cookies := b.cookies
  options := b.options

/-- A builder with a body or a form but not both is built from its url and content. -/
theorem build_eq (herror : b.bodyError = none)
    (hboth : (b.body.isSome && !b.formParts.isEmpty) = false) :
    b.build boundary = HttpError.ofUri b.resolveUrl >>= fun url =>
      b.content boundary >>= fun content => pure (b.requestOf url content) := by
  unfold build
  rw [herror, hboth]
  rfl

/-- The ways in which a builder is built. -/
theorem build_cases (b : Builder) (boundary : Text) :
    (∃ message, b.build boundary = .error (.serialization message)) ∨
      b.build boundary = .error .bodyAndForm ∨
      b.build boundary = HttpError.ofUri b.resolveUrl >>= fun url =>
        b.content boundary >>= fun content => pure (b.requestOf url content) := by
  cases herror : b.bodyError with
  | some message => exact Or.inl ⟨message, build_of_bodyError herror⟩
  | none =>
    cases hboth : b.body.isSome && !b.formParts.isEmpty with
    | true => exact Or.inr (Or.inl (build_of_bodyAndForm herror hboth))
    | false => exact Or.inr (Or.inr (build_eq herror hboth))

/-! ## Headers -/

/-- The error is that of a header. -/
def IsHeaderError (e : HttpError) : Prop :=
  e = .headerName ∨ e = .headerValue

theorem isHeaderError_of_fault? {header : Text × Text} {e : HttpError}
    (h : Header.fault? header = some e) : IsHeaderError e := by
  unfold Header.fault? at h
  split at h
  · cases h
    exact Or.inl rfl
  · split at h
    · cases h
      exact Or.inr rfl
    · cases h

theorem isHeaderError_of_value? {text : Text} {e : HttpError}
    (h : Header.value? text = .error e) : IsHeaderError e := by
  rw [Header.value?_eq] at h
  split at h
  · cases h
  · cases h
    exact Or.inr rfl

/-- One header more is sent, unless something is wrong with it. -/
theorem sendHeaders_cons (headers : SortedMap Text Bytes) (header : Text × Text)
    (rest : List (Text × Text)) :
    sendHeaders headers (header :: rest) =
      match Header.fault? header with
      | some e => .error e
      | none =>
        sendHeaders (headers.insert (Header.sent header).1 (Header.sent header).2) rest := by
  rw [sendHeaders, Header.name?_eq, Header.value?_eq, Header.fault?]
  by_cases hname : Header.IsToken header.1 ∧ header.1.length ≤ Header.longestName
  · rw [if_pos hname, if_neg (not_not_intro hname)]
    by_cases hvalue : Header.IsValue header.2
    · rw [if_pos hvalue, if_neg (not_not_intro hvalue)]
      rfl
    · rw [if_neg hvalue, if_pos hvalue]
      rfl
  · rw [if_neg hname, if_pos hname]
    rfl

/-- **Headers are sent if nothing is wrong with any of them.**  Otherwise the first one that
has a fault is the answer. -/
theorem sendHeaders_eq (headers : SortedMap Text Bytes) (l : List (Text × Text)) :
    sendHeaders headers l =
      match l.findSome? Header.fault? with
      | some e => .error e
      | none => .ok (headers.insertMany (l.map Header.sent)) := by
  induction l generalizing headers with
  | nil => rfl
  | cons header l ih =>
    rw [sendHeaders_cons, List.findSome?_cons]
    cases Header.fault? header with
    | some e => rfl
    | none => exact ih _

theorem isHeaderError_of_sendHeaders {headers : SortedMap Text Bytes} {l : List (Text × Text)}
    {e : HttpError} (h : sendHeaders headers l = .error e) : IsHeaderError e := by
  rw [sendHeaders_eq] at h
  split at h
  · cases h
    obtain ⟨header, -, hfault⟩ := List.exists_of_findSome?_eq_some ‹_›
    exact isHeaderError_of_fault? hfault
  · cases h

/-- Content can only fail for its headers. -/
theorem isHeaderError_of_content {e : HttpError} (h : b.content boundary = .error e) :
    IsHeaderError e := by
  rw [content, Result.bind_eq_error_iff] at h
  rcases h with h | ⟨headers, -, h⟩
  · exact isHeaderError_of_sendHeaders h
  · split at h
    · exact absurd h Result.pure_ne_error
    · rw [Result.bind_eq_error_iff] at h
      rcases h with h | ⟨contentType, -, h⟩
      · exact isHeaderError_of_value? h
      · exact absurd h Result.pure_ne_error

/-! ## The url -/

/-- A request that is built has the url and the content of its builder. -/
theorem exists_of_build {request : Request} (h : b.build boundary = .ok request) :
    ∃ url content, b.resolveUrl = .ok url ∧ b.content boundary = .ok content ∧
      request = b.requestOf url content := by
  rcases build_cases b boundary with ⟨message, hbuild⟩ | hbuild | hbuild <;> rw [hbuild] at h
  · cases h
  · cases h
  · obtain ⟨url, hurl, h⟩ := Result.bind_eq_ok_iff.mp h
    obtain ⟨content, hcontent, h⟩ := Result.bind_eq_ok_iff.mp h
    exact ⟨url, content, Result.ofUri_eq_ok_iff.mp hurl, hcontent,
      (Result.pure_eq_ok_iff.mp h).symm⟩

/-- A request that is built goes to the url of its builder. -/
theorem resolveUrl_of_build {request : Request} (h : b.build boundary = .ok request) :
    b.resolveUrl = .ok request.url := by
  obtain ⟨url, content, hurl, -, rfl⟩ := exists_of_build h
  exact hurl

/-- An error of a uri is that of the url of the builder. -/
theorem resolveUrl_of_build_error {e : UriError} (h : b.build boundary = .error (.uri e)) :
    b.resolveUrl = .error e := by
  rcases build_cases b boundary with ⟨message, hbuild⟩ | hbuild | hbuild <;> rw [hbuild] at h
  · cases h
  · cases h
  · rcases Result.bind_eq_error_iff.mp h with h | ⟨url, -, h⟩
    · obtain ⟨cause, hcause, heq⟩ := Result.ofUri_eq_error_iff.mp h
      cases heq
      exact hcause
    · rcases Result.bind_eq_error_iff.mp h with h | ⟨content, -, h⟩
      · rcases isHeaderError_of_content h with heq | heq <;> cases heq
      · exact absurd h Result.pure_ne_error

end Builder
end OutboundHttp
