import OutboundHttp.Client.Execute
import OutboundHttp.Proofs.Builder.Options
import OutboundHttp.Proofs.Response.Charset
import Mathlib.Logic.Basic

/-!
# What comes of a request

A request whose transport fails fails in the same way, and a response is judged by the options
of its request (`execute_of_ok`).  These are what the operations on the builder have made of
them, so which responses make a request fail, and what is noted of them, can be read off the
operations (`execute_of_run`).
-/
namespace OutboundHttp

/-- The line of a request ends with its summary, if it has one. -/
theorem Request.line_eq (request : Request) :
    request.line = ("Req: [" : Text) ++ request.method.name ++ ("] " : Text) ++ request.url.text ++
      request.summary.elim [] ((": " : Text) ++ ·) := by
  unfold Request.line
  cases request.summary with
  | none => exact (List.append_nil _).symm
  | some summary => exact List.append_assoc _ _ _

namespace Client

variable {transport : Transport} {request : Request} {raw : RawResponse} {response : Response}

/-! ## One request -/

theorem execute_of_error [MultiOctet.Codec] {e : HttpError} (h : transport request = .error e) :
    execute transport request = ⟨[requestEvent request], .error e⟩ := by
  rw [execute, h]

theorem execute_of_ok [MultiOctet.Codec] (h : transport request = .ok raw) :
    let judged := judge (.ofBytes request raw.headers raw.body raw.status raw.version)
    execute transport request = ⟨requestEvent request :: judged.events, judged.result⟩ := by
  rw [execute, h]

/-- The outcome and the events of a judgement, each on its own. -/
theorem judge_eq (response : Response) :
    (judge response).result =
        (if isFailure response then .error (.status response.status.code response.content)
        else .ok response) ∧
      (judge response).events = responseEvent response ::
        (contentEvents response ++ if isFailure response then failureEvents response else []) := by
  unfold judge
  split <;> simp

theorem isFailure_iff :
    isFailure response = true ↔
      400 ≤ response.status.code ∧ response.request.options.suppressHttpError = false ∧
        response.request.options.suppressedStatusCodes.contains response.status.code = false := by
  simp [isFailure, Status.isError, Request.suppresses]

/-! ## Requests of a run -/

open Builder

variable {base : Uri} {defaults : Option Defaults} {ops : List Operation} {boundary : Text}

/-- A response of this code makes a request fail: the code is that of an error, errors were not
suppressed last, and neither the run nor the defaults suppress this one. -/
def FailsOn (defaults : Option Defaults) (ops : List Operation) (code : UInt16) : Prop :=
  400 ≤ code ∧ Switch.suppressHttpError.last? ops ≠ some true ∧
    code ∉ ops.flatMap Operation.statusCodes ∧ ∀ d ∈ defaults, code ∉ d.suppressedStatusCodes

instance (defaults : Option Defaults) (ops : List Operation) (code : UInt16) :
    Decidable (FailsOn defaults ops code) :=
  inferInstanceAs (Decidable (_ ∧ _ ∧ _ ∧ ∀ d ∈ defaults, _))

/-- The judgement of a response, by the run that has made the request. -/
theorem isFailure_iff_failsOn
    (hbuild : ((start base defaults).run ops).build boundary = .ok response.request) :
    isFailure response = true ↔ FailsOn defaults ops response.status.code := by
  obtain ⟨hsuppress, -, -, hcodes⟩ := options_start base defaults
  have hswitch := Switch.suppressHttpError.read_run (start base defaults) ops
  have hlast : ((start base defaults).run ops).options.suppressHttpError =
      (Switch.suppressHttpError.last? ops).getD false := by
    rw [← hsuppress]
    exact hswitch
  have hcontains := @contains_run (start base defaults) ops response.status.code
  rw [hcodes] at hcontains
  rw [isFailure_iff, options_of_build hbuild, hlast, ← Bool.not_eq_true, ← Bool.not_eq_true,
    hcontains, FailsOn]
  cases Switch.suppressHttpError.last? ops <;> simp

/-- **What comes of a request that a run has built.**  The failure of the transport is that of
the request, and nothing but the request is noted.  A response that the run has not been told to
suppress fails with its code and content; any other is handed on.  The request and the response
are noted, then the content if the run asked for it, and then the failure if there is one and
the run did not ask to leave it out. -/
theorem execute_of_run [MultiOctet.Codec]
    (hbuild : ((start base defaults).run ops).build boundary = .ok request)
    (transport : Transport) :
    let sent : Event := ⟨.debug, ("Req: [" : Text) ++ request.method.name ++ ("] " : Text) ++
      request.url.text ++ request.summary.elim [] ((": " : Text) ++ ·)⟩
    (∀ e, transport request = .error e → execute transport request = ⟨[sent], .error e⟩) ∧
    ∀ raw charset, transport request = .ok raw → raw.headers.HasCharset charset →
      let response : Response := {
        request := request, headers := raw.headers, status := raw.status, version := raw.version,
        data := raw.body, content := charset.decode raw.body }
      let received : Event := ⟨.debug, ("Res: [" : Text) ++ request.method.name ++ ("] " : Text) ++
        request.url.text ++ (": " : Text) ++ Text.ofNat raw.status.code.toNat ++ (" (" : Text) ++
        Text.ofNat raw.body.length ++ (" bytes)" : Text)⟩
      let fails := FailsOn defaults ops raw.status.code
      let logsContent := (Switch.logResponseContent.last? ops).getD
        (defaults.getD {}).logResponseContent
      let logsFailure := (Switch.logHttpError.last? ops).getD (defaults.getD {}).logHttpError
      (execute transport request).result =
          (if fails then .error (.status raw.status.code response.content) else .ok response) ∧
        (execute transport request).events =
          sent :: received ::
            ((if logsContent then
                [⟨.trace, ("Response content: " : Text) ++ response.content⟩]
              else []) ++
            (if fails ∧ logsFailure then
                [⟨.warn, ("HTTP Error - " : Text) ++ response.line⟩]
              else [])) := by
  intro sent
  have hsent : requestEvent request = sent := by
    rw [requestEvent, Request.line_eq]
  refine ⟨fun e h => hsent ▸ execute_of_error h, fun raw charset h hcharset => ?_⟩
  obtain rfl := HeaderLines.charset_eq_iff.mpr hcharset
  intro response received fails logsContent logsFailure
  have hreceived : responseEvent response = received := rfl
  obtain ⟨-, hlog, hcontent, -⟩ := options_start base defaults
  have hfails : isFailure response = true ↔ fails := isFailure_iff_failsOn hbuild
  have hcontentSwitch : response.request.options.logResponseContent = logsContent := by
    rw [options_of_build hbuild]
    exact (Switch.logResponseContent.read_run _ ops).trans (congrArg _ hcontent)
  have hfailureSwitch : response.request.options.logHttpError = logsFailure := by
    rw [options_of_build hbuild]
    exact (Switch.logHttpError.read_run _ ops).trans (congrArg _ hlog)
  obtain ⟨hresult, hevents⟩ := judge_eq response
  rw [execute_of_ok h, hsent]
  refine ⟨hresult.trans (if_congr hfails rfl rfl), ?_⟩
  have hwarning : (if isFailure response then failureEvents response else []) =
      if fails ∧ logsFailure then [⟨.warn, ("HTTP Error - " : Text) ++ response.line⟩] else [] := by
    rw [failureEvents, hfailureSwitch, ite_and]
    exact if_congr hfails rfl rfl
  rw [hwarning, contentEvents, hcontentSwitch, hreceived] at hevents
  exact congrArg (sent :: ·) hevents

open Uri in
/-- An error status that is on no list, with suppression switched off again; and no answer. -/
theorem execute_of_run_unlisted :
    ∃ base request, parse "http://h" = .ok base ∧
      let defaults : Defaults := { suppressedStatusCodes := [404], logResponseContent := true }
      let ops : List Operation :=
        [.suppressHttpError true, .suppressStatusCodes [500], .suppressHttpError false]
      let execute := @execute .ascii
      ((start base (some defaults)).run ops).build [] = .ok request ∧
        execute (fun _ => .error .timeout) request =
          ⟨[⟨.debug, "Req: [GET] http://h"⟩], .error .timeout⟩ ∧
        let outcome := execute (fun _ => .ok ⟨⟨503⟩, .http2, [], [0x78]⟩) request
        outcome.result = .error (.status 503 "x") ∧
          outcome.events = [⟨.debug, "Req: [GET] http://h"⟩,
            ⟨.debug, "Res: [GET] http://h: 503 (1 bytes)"⟩,
            ⟨.trace, "Response content: x"⟩,
            ⟨.warn, "HTTP Error - Res: HTTP/2.0 [GET] http://h: 503.Service Unavailable (1 bytes)"⟩] := by
  let base : Uri := { scheme := "http", host := "h", text := "http://h" }
  let defaults : Defaults := { suppressedStatusCodes := [404], logResponseContent := true }
  let ops : List Operation :=
    [.suppressHttpError true, .suppressStatusCodes [500], .suppressHttpError false]
  obtain ⟨request, hbuild, hmethod, hurl, hsummary⟩ :
      ∃ request, ((start base (some defaults)).run ops).build [] = .ok request ∧
        request.method = .get ∧ request.url.text = ("http://h" : Text) ∧
        request.summary = none := by
    have hok : (((start base (some defaults)).run ops).build []).map (fun request =>
        (request.method, request.url.text, request.summary)) =
          .ok (.get, "http://h", none) := by decide +kernel
    cases h : ((start base (some defaults)).run ops).build [] with
    | ok request =>
      rw [h] at hok
      injection hok with hok
      exact ⟨request, rfl, by simpa using hok⟩
    | error e =>
      rw [h] at hok
      cases hok
  let answer : RawResponse := ⟨⟨503⟩, .http2, [], [0x78]⟩
  obtain ⟨hsilent, hanswered⟩ := @execute_of_run _ _ _ _ _ .ascii hbuild fun _ => .ok answer
  have hcharset : answer.headers.HasCharset .utf8 := HeaderLines.charset_eq_iff.mp rfl
  obtain ⟨hresult, hevents⟩ := hanswered answer .utf8 rfl hcharset
  have hfails : FailsOn (some defaults) ops 503 := by decide
  have hcontent : (Switch.logResponseContent.last? ops).getD
      ((some defaults).getD {}).logResponseContent = true := by decide
  have hfailure : (Switch.logHttpError.last? ops).getD
      ((some defaults).getD {}).logHttpError = true := by decide
  refine ⟨base, request, rfl, hbuild, ?_, ?_, ?_⟩
  · refine ((@execute_of_run _ _ _ _ _ .ascii hbuild _).1 _ rfl).trans ?_
    rw [hmethod, hurl, hsummary]
    rfl
  · exact hresult.trans (if_pos hfails)
  · rw [if_pos hcontent, if_pos (And.intro hfails hfailure), hmethod, hurl, hsummary] at hevents
    refine hevents.trans ?_
    have hpage (content : Text) : Response.showsContent {
        request := request, headers := answer.headers, status := answer.status,
        version := answer.version, data := answer.body, content := content } = false := rfl
    simp only [Response.line, hpage, hmethod, hurl]
    decide

end Client
end OutboundHttp
