import OutboundHttp.Builder.Defaults
import OutboundHttp.Proofs.Builder.Build
import OutboundHttp.Proofs.Builder.Run

/-!
# Options over a run

An operation changes the options of a builder without regard to anything else that the builder
holds (`options_of_applyOrKeep`), so what a run makes of the options is read off its operations
(`options_run`).  A switch is as it was set last (`Switch.read_run`), and the status codes that
are not to fail add up (`contains_run`).  Both hold from whatever options the builder starts
with, such as those of defaults (`withDefaults_eq`).
-/
namespace OutboundHttp
namespace Builder

variable {b b' : Builder}

namespace Operation

/-- What an operation does to the options. -/
def onOptions : Operation → RequestOptions → RequestOptions
  | .keepAlive on, o => { o with keepAlive := on }
  | .rateLimit seconds, o => { o with rateLimit := (Duration.ofSeconds? seconds).getD .zero }
  | .suppressHttpError on, o => { o with suppressHttpError := on }
  | .suppressStatusCodes codes, o =>
    { o with suppressedStatusCodes := SortedSet.insertMany o.suppressedStatusCodes codes }
  | .logHttpError on, o => { o with logHttpError := on }
  | .useSimplifiedUserAgent on, o => { o with useSimplifiedUserAgent := on }
  | .allowAutoRedirect on, o => { o with allowAutoRedirect := on }
  | .logResponseContent on, o => { o with logResponseContent := on }
  | .credentials given, o => { o with credentials := some given }
  | _, o => o

/-- The status codes that an operation keeps from failing. -/
def statusCodes : Operation → List UInt16
  | .suppressStatusCodes codes => codes
  | _ => []

end Operation

/-! ## One operation -/

theorem options_effect (b : Builder) (op : Operation) :
    (b.effect op).options = op.onOptions b.options := by
  cases op with
  | addQueryParam place key value replace => cases replace <;> cases place <;> rfl
  | json written => cases written <;> rfl
  | _ => rfl

theorem options_of_applyOrKeep (b : Builder) (op : Operation) :
    (b.applyOrKeep op).options = op.onOptions b.options :=
  (read_applyOrKeep (fun _ _ => rfl) (fun _ _ => rfl) b op).trans (options_effect b op)

/-! ## A run -/

/-- **Options are what the operations of a run make of them, one after the other.** -/
theorem options_run (b : Builder) (ops : List Operation) :
    (b.run ops).options = ops.foldl (fun o op => op.onOptions o) b.options := by
  induction ops generalizing b with
  | nil => rfl
  | cons op ops ih =>
    rw [run_cons, ih, options_of_applyOrKeep]
    rfl

/-- A code suppressed after a run was suppressed before it, or named in it. -/
theorem contains_run {ops : List Operation} {code : UInt16} :
    (b.run ops).options.suppressedStatusCodes.contains code = true ↔
      code ∈ ops.flatMap Operation.statusCodes ∨
        b.options.suppressedStatusCodes.contains code = true := by
  rw [options_run]
  generalize b.options = o
  induction ops generalizing o with
  | nil => simp
  | cons op ops ih =>
    have hstep : (op.onOptions o).suppressedStatusCodes.contains code = true ↔
        code ∈ op.statusCodes ∨ o.suppressedStatusCodes.contains code = true := by
      cases op with
      | suppressStatusCodes codes => exact SortedSet.contains_insertMany
      | _ => simp [Operation.onOptions, Operation.statusCodes]
    rw [List.foldl_cons, ih, hstep, List.flatMap_cons, List.mem_append]
    exact or_left_comm.trans or_assoc.symm

/-- A request has the options of its builder. -/
theorem options_of_build {boundary : Text} {request : Request}
    (h : b.build boundary = .ok request) : request.options = b.options := by
  obtain ⟨url, content, -, -, rfl⟩ := exists_of_build h
  rfl

/-- One of the options that are on or off, and the operation that sets it. -/
structure Switch where
  read : RequestOptions → Bool
  set? : Operation → Option Bool
  read_onOptions : ∀ op o, read (op.onOptions o) = (set? op).getD (read o)

namespace Switch

/-- No error status makes the request fail. -/
def suppressHttpError : Switch where
  read o := o.suppressHttpError
  set? | .suppressHttpError on => some on | _ => none
  read_onOptions op _ := by cases op <;> rfl

/-- A failure is noted. -/
def logHttpError : Switch where
  read o := o.logHttpError
  set? | .logHttpError on => some on | _ => none
  read_onOptions op _ := by cases op <;> rfl

/-- The content of the response is noted. -/
def logResponseContent : Switch where
  read o := o.logResponseContent
  set? | .logResponseContent on => some on | _ => none
  read_onOptions op _ := by cases op <;> rfl

/-- What a run sets the switch to last. -/
def last? (s : Switch) (ops : List Operation) : Option Bool :=
  (ops.filterMap s.set?).getLast?

/-- **A switch is as it was set last.** -/
theorem read_run (s : Switch) (b : Builder) (ops : List Operation) :
    s.read (b.run ops).options = (s.last? ops).getD (s.read b.options) := by
  have heffect (b : Builder) (op : Operation) :
      s.read (b.effect op).options = ((s.set? op).map id).getD (s.read b.options) := by
    rw [options_effect, s.read_onOptions, Option.map_id_fun, id]
  have hrun := Builder.read_run (fun b => s.read b.options) (fun _ _ => rfl) (fun _ _ => rfl)
    heffect b ops
  rwa [Option.map_id_fun, id] at hrun

end Switch

/-! ## Defaults -/

/-- Headers that are set one after the other change nothing but the headers. -/
theorem run_setHeader (b : Builder) (headers : List (Text × Text)) :
    b.run (headers.map fun (name, value) => .setHeader name value) = { b with
      headers := b.headers.insertMany (headers.map fun (name, value) =>
        (Text.lowerAscii name, value)) } := by
  induction headers generalizing b with
  | nil => rfl
  | cons header headers ih => exact ih (b.setHeader header.1 header.2)

/-- **A builder that starts from defaults** has their headers and their options, and is new in
all else. -/
theorem withDefaults_eq (base : Uri) (defaults : Defaults) :
    withDefaults base defaults = { ofUri base with
      headers := (SortedMap.empty.insert "accept".toList defaults.accept).insertMany
        (defaults.headers.entries.map fun (name, value) => (Text.lowerAscii name, value))
      options := {
        suppressedStatusCodes := SortedSet.insertMany .empty defaults.suppressedStatusCodes
        logHttpError := defaults.logHttpError
        useSimplifiedUserAgent := defaults.useSimplifiedUserAgent
        allowAutoRedirect := defaults.allowAutoRedirect
        keepAlive := defaults.keepAlive
        rateLimit := (Duration.ofSeconds? defaults.rateLimitSecs).getD .zero
        logResponseContent := defaults.logResponseContent } } := by
  rw [withDefaults, defaultOperations, run, List.foldl_append]
  exact run_setHeader _ defaults.headers.entries

/-- A new builder for a base url, with or without defaults. -/
def start (base : Uri) : Option Defaults → Builder
  | none => ofUri base
  | some defaults => withDefaults base defaults

/-- The options that count for the judgement of a response, before any operation. -/
theorem options_start (base : Uri) (defaults : Option Defaults) :
    (start base defaults).options.suppressHttpError = false ∧
      (start base defaults).options.logHttpError = (defaults.getD {}).logHttpError ∧
      (start base defaults).options.logResponseContent = (defaults.getD {}).logResponseContent ∧
      ∀ code, (start base defaults).options.suppressedStatusCodes.contains code = true ↔
        ∃ d ∈ defaults, code ∈ d.suppressedStatusCodes := by
  cases defaults with
  | none => exact ⟨rfl, rfl, rfl, fun code => by simp [start, ofUri, SortedMap.contains]⟩
  | some d =>
    rw [start, withDefaults_eq]
    refine ⟨rfl, rfl, rfl, fun code => ?_⟩
    rw [SortedSet.contains_insertMany]
    simp [SortedMap.contains]

end Builder
end OutboundHttp
