import OutboundHttp.Proofs.Client.Execute

/-!
# What is noted of a body

Unless a request asks for the content of its response to be noted, the events of its execution
depend on the body of the response by its length only, with one exception: a failure that is
noted shows the content of a response that has a content type and is not a page for people.
Two bodies of the same length are then told apart exactly by their texts
(`events_eq_iff_of_body`).
-/
namespace OutboundHttp

/-- The media type that a content type begins with. -/
def mediaType (contentType : Text) : Text :=
  Text.strip (contentType.takeWhile (· != ';'))

namespace Response

/-- The content goes into the line of an error response whose media type is known and is not
that of a page. -/
theorem showsContent_iff {response : Response} :
    response.showsContent = true ↔
      400 ≤ response.status.code ∧ ∃ contentType, response.headers.contentType? = some contentType ∧
        Text.lowerAscii (mediaType contentType) ≠ "text/html" := by
  have hpage : Text.lowerAscii "text/html" = "text/html" := by decide
  unfold showsContent
  cases response.headers.contentType? with
  | none => simp
  | some contentType =>
    simp only [Status.isError, isHtml, Text.sameIgnoringCase, hpage, mediaType, Option.some.injEq,
      Bool.and_eq_true, decide_eq_true_eq, Bool.not_eq_true', beq_eq_false_iff_ne, exists_eq_left']

/-- The lines of two responses that differ at most in their bytes. -/
theorem line_eq_iff {response other : Response} (hrequest : other.request = response.request)
    (hheaders : other.headers = response.headers) (hstatus : other.status = response.status)
    (hversion : other.version = response.version)
    (hlength : other.data.length = response.data.length) :
    other.line = response.line ↔
      (response.showsContent = true → other.content = response.content) := by
  have hshows : other.showsContent = response.showsContent := by
    rw [showsContent, showsContent, hheaders, hstatus]
  simp only [line, hrequest, hstatus, hversion, hlength, hshows]
  split
  · simp [*]
  · simp [*]

end Response

namespace Client

open Response

variable {transport transport' : Transport} {request : Request} {raw : RawResponse} {body : Bytes}

/-- The failure that is noted of a response shows what its body says. -/
structure ShowsBody (request : Request) (raw : RawResponse) : Prop where
  isError : 400 ≤ raw.status.code
  isRaised : request.suppresses raw.status.code = false
  isNoted : request.options.logHttpError = true
  isText : ∃ contentType, raw.headers.contentType? = some contentType ∧
    Text.lowerAscii (mediaType contentType) ≠ "text/html"

/-- The events of a response whose content is not asked for. -/
theorem events_judge_of_quiet {response : Response}
    (hquiet : response.request.options.logResponseContent = false) :
    (judge response).events = responseEvent response ::
      if isFailure response && response.request.options.logHttpError then
        [⟨.warn, ("HTTP Error - " : Text) ++ response.line⟩]
      else [] := by
  rw [(judge_eq response).2, contentEvents, hquiet, failureEvents]
  cases isFailure response <;> rfl

theorem showsBody_iff {response : Response} (hrequest : response.request = request)
    (hheaders : response.headers = raw.headers) (hstatus : response.status = raw.status) :
    ShowsBody request raw ↔
      (isFailure response && response.request.options.logHttpError) = true ∧
        response.showsContent = true := by
  rw [showsContent_iff, hheaders, hstatus, isFailure, hrequest, hstatus]
  simp only [Status.isError, Bool.and_eq_true, decide_eq_true_eq, Bool.not_eq_true']
  constructor
  · rintro ⟨herror, hraised, hnoted, htext⟩
    exact ⟨⟨⟨herror, hraised⟩, hnoted⟩, herror, htext⟩
  · rintro ⟨⟨⟨herror, hraised⟩, hnoted⟩, -, htext⟩
    exact ⟨herror, hraised, hnoted, htext⟩

/-- **Bodies do not get into events.**  A request that does not ask for content gets two
responses that differ in their bodies, which are of the same length.  The events are the same,
unless the failure that is noted shows the body; and then they are the same exactly if both
bodies are the same text. -/
theorem events_eq_iff_of_body [MultiOctet.Codec]
    (hquiet : request.options.logResponseContent = false)
    (h : transport request = .ok raw) (h' : transport' request = .ok { raw with body := body })
    (hlength : body.length = raw.body.length) :
    (¬ ShowsBody request raw →
        (execute transport' request).events = (execute transport request).events) ∧
      (ShowsBody request raw → ∀ charset, raw.headers.HasCharset charset →
        ((execute transport' request).events = (execute transport request).events ↔
          charset.decode body = charset.decode raw.body)) := by
  let response := ofBytes request raw.headers raw.body raw.status raw.version
  let other := ofBytes request raw.headers body raw.status raw.version
  have hline : other.line = response.line ↔
      (response.showsContent = true → other.content = response.content) :=
    line_eq_iff rfl rfl rfl rfl hlength
  have hevent : responseEvent other = responseEvent response := by
    simp only [responseEvent, other, response, ofBytes, hlength]
  have hjudged : (judge other).events = (judge response).events ↔
      ((isFailure response && response.request.options.logHttpError) = true →
        other.line = response.line) := by
    have hsame : (isFailure other && other.request.options.logHttpError) =
        (isFailure response && response.request.options.logHttpError) := rfl
    rw [events_judge_of_quiet hquiet, events_judge_of_quiet hquiet, hevent, hsame]
    cases isFailure response && response.request.options.logHttpError <;> simp
  have hevents : (execute transport' request).events = (execute transport request).events ↔
      (ShowsBody request raw → other.content = response.content) := by
    rw [@showsBody_iff request raw response rfl rfl rfl, and_imp, ← hline, ← hjudged,
      execute_of_ok h, execute_of_ok h']
    exact List.cons_inj_right _
  constructor
  · intro hhidden
    exact hevents.mpr fun hshown => absurd hshown hhidden
  · intro hshown charset hcharset
    obtain rfl := HeaderLines.charset_eq_iff.mpr hcharset
    exact hevents.trans (forall_prop_of_true hshown)

/-- Two pages are not told apart by their failures, but two plain texts are. -/
theorem events_eq_iff_of_body_page :
    let request : Request := {
      headers := .empty, data := none, summary := none, url := { text := "http://h" },
      method := .get, cookies := .empty, options := {} }
    let answer (contentType : Text) (body : Bytes) : RawResponse :=
      ⟨⟨500⟩, .http11, [("content-type", Utf8.encode contentType)], body⟩
    let events (raw : RawResponse) := (@execute .ascii (fun _ => .ok raw) request).events
    request.options.logResponseContent = false ∧
      events (answer "Text/HTML ; charset=utf-8" [0x61]) =
        events (answer "Text/HTML ; charset=utf-8" [0x62]) ∧
      events (answer "text/plain" [0x61]) ≠ events (answer "text/plain" [0x62]) := by
  intro request answer events
  let page := answer "Text/HTML ; charset=utf-8" [0x62]
  let plain := answer "text/plain" [0x62]
  let deliver (raw : RawResponse) : Transport := fun _ => .ok raw
  have hhidden : ¬ ShowsBody request page := by
    rintro ⟨-, -, -, contentType, hcontent, htype⟩
    have hread : page.headers.contentType? = some ("Text/HTML ; charset=utf-8" : Text) := by decide
    obtain rfl := Option.some.inj (hread.symm.trans hcontent)
    exact htype (by decide)
  have hshown : ShowsBody request plain :=
    ⟨by decide, by decide, rfl, ("text/plain" : Text), by decide, by decide⟩
  have hpages := @events_eq_iff_of_body (deliver page) (deliver { page with body := [0x61] })
    request page [0x61] .ascii rfl rfl rfl rfl
  have hplains := @events_eq_iff_of_body (deliver plain) (deliver { plain with body := [0x61] })
    request plain [0x61] .ascii rfl rfl rfl rfl
  have hcharset : plain.headers.HasCharset .utf8 := HeaderLines.charset_eq_iff.mp rfl
  refine ⟨rfl, hpages.1 hhidden, fun heq => ?_⟩
  have hsame := (hplains.2 hshown .utf8 hcharset).mp heq
  exact absurd hsame (by decide)

end Client
end OutboundHttp
