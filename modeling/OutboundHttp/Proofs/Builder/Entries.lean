import OutboundHttp.Proofs.Builder.Run

/-!
# The entries of a key

A builder may hold several parameters of one key, in two lists.  What an operation does to the
entries of a key can be told from these entries alone (`entriesOf_applyOrKeep`), so what a run
makes of them is read off the calls for this key (`entriesOf_run`).  A call that replaces leaves
one entry and forgets all that came before it, so making it again changes nothing
(`run_replace_replace`).
-/
namespace OutboundHttp
namespace Builder

/-- The parameters of one key, in the order of their lists. -/
structure Entries where
  /-- Among the parameters that come first. -/
  primary : List (Text × Text) := []
  /-- Among those that come after all others. -/
  suffix : List (Text × Text) := []
  deriving DecidableEq

/-- The entries with one more in its place. -/
def Entries.put (e : Entries) : ParamPlace → Text × Text → Entries
  | .last, param => { e with primary := e.primary ++ [param] }
  | .first, param => { e with primary := param :: e.primary }
  | .suffix, param => { e with suffix := e.suffix ++ [param] }

/-- An entry that is put where there is none stands alone in its list. -/
theorem Entries.put_empty (place : ParamPlace) (param : Text × Text) :
    Entries.put {} place param =
      if place = .suffix then { suffix := [param] } else { primary := [param] } := by
  cases place <;> rfl

/-- The entries that a builder holds for a key. -/
def entriesOf (b : Builder) (key : Text) : Entries where
  primary := b.queryParams.filter (·.1 == key)
  suffix := b.suffixQueryParams.filter (·.1 == key)

namespace Operation

/-- The operation adds a parameter of this key. -/
def isCallFor (key : Text) : Operation → Bool
  | .addQueryParam _ key' _ _ => key' == key
  | _ => false

/-- What an operation makes of the entries of a key. -/
def onEntries (key : Text) : Operation → Entries → Entries
  | .addQueryParam place key' value replace, e =>
    if key' = key then (if replace then {} else e).put place (key', value) else e
  | _, e => e

theorem onEntries_of_not_isCallFor {key : Text} {op : Operation} (h : op.isCallFor key = false)
    (e : Entries) : op.onEntries key e = e := by
  cases op with
  | addQueryParam place key' value replace => exact if_neg (beq_eq_false_iff_ne.mp h)
  | _ => rfl

theorem onEntries_replace (place : ParamPlace) (key value : Text) (e : Entries) :
    (addQueryParam place key value true).onEntries key e = Entries.put {} place (key, value) :=
  if_pos rfl

end Operation

variable {b : Builder} {key : Text}

/-! ## One operation -/

theorem filter_dropped (params : List (Text × Text)) (key key' : Text) :
    (params.filter (·.1 != key')).filter (·.1 == key) =
      if key' = key then [] else params.filter (·.1 == key) := by
  rw [List.filter_filter]
  split
  · rename_i heq
    subst heq
    exact List.filter_eq_nil_iff.mpr fun param _ => by simp
  · rename_i hne
    refine List.filter_congr fun param _ => ?_
    by_cases hparam : param.1 = key
    · simp [hparam, Ne.symm hne]
    · simp [hparam]

theorem entriesOf_dropParams (b : Builder) (key key' : Text) :
    (b.dropParams key').entriesOf key = if key' = key then {} else b.entriesOf key := by
  simp only [dropParams, entriesOf, filter_dropped]
  split <;> rfl

theorem entriesOf_putParam (b : Builder) (place : ParamPlace) (key : Text) (param : Text × Text) :
    (b.putParam place param).entriesOf key =
      if param.1 = key then (b.entriesOf key).put place param else b.entriesOf key := by
  by_cases hkey : param.1 = key
  · cases place <;> simp [putParam, entriesOf, Entries.put, hkey]
  · cases place <;> simp [putParam, entriesOf, hkey]

theorem entriesOf_effect (b : Builder) (op : Operation) (key : Text) :
    (b.effect op).entriesOf key = op.onEntries key (b.entriesOf key) := by
  cases op with
  | addQueryParam place key' value replace =>
    have heffect : b.effect (.addQueryParam place key' value replace) =
        (if replace then b.dropParams key' else b).putParam place (key', value) := rfl
    rw [heffect, entriesOf_putParam, Operation.onEntries]
    split
    · rename_i heq
      cases replace with
      | false => rfl
      | true => rw [if_pos rfl, if_pos rfl, entriesOf_dropParams, if_pos heq]
    · rename_i hne
      cases replace with
      | false => rfl
      | true => rw [if_pos rfl, entriesOf_dropParams, if_neg hne]
  | json written => cases written <;> rfl
  | _ => rfl

theorem entriesOf_applyOrKeep (b : Builder) (op : Operation) (key : Text) :
    (b.applyOrKeep op).entriesOf key = op.onEntries key (b.entriesOf key) := by
  have hread := @read_applyOrKeep Entries (fun b => b.entriesOf key) (fun _ _ => rfl)
    (fun _ _ => rfl) b op
  exact hread.trans (entriesOf_effect b op key)

/-! ## A run -/

/-- **The entries of a key are what the calls for this key make of them,** one after the other. -/
theorem entriesOf_run (b : Builder) (ops : List Operation) (key : Text) :
    (b.run ops).entriesOf key =
      (ops.filter (·.isCallFor key)).foldl (fun e op => op.onEntries key e) (b.entriesOf key) := by
  induction ops generalizing b with
  | nil => rfl
  | cons op ops ih =>
    rw [run_cons, ih, entriesOf_applyOrKeep]
    cases hcall : op.isCallFor key with
    | true => rw [List.filter_cons_of_pos hcall, List.foldl_cons]
    | false =>
      rw [List.filter_cons_of_neg (by rw [hcall]; exact Bool.false_ne_true),
        Operation.onEntries_of_not_isCallFor hcall]

/-- A call that replaces decides alone if no other call for its key follows. -/
theorem entriesOf_run_replace {before after : List Operation} {place : ParamPlace} {value : Text}
    (hafter : ∀ op ∈ after, op.isCallFor key = false) :
    (b.run (before ++ .addQueryParam place key value true :: after)).entriesOf key =
      Entries.put {} place (key, value) := by
  have hcall : (Operation.addQueryParam place key value true).isCallFor key = true :=
    beq_iff_eq.mpr rfl
  have hnone : after.filter (·.isCallFor key) = [] :=
    List.filter_eq_nil_iff.mpr fun op hop => by rw [hafter op hop]; exact Bool.false_ne_true
  rw [entriesOf_run, List.filter_append, List.filter_cons_of_pos hcall, hnone, List.foldl_append]
  exact Operation.onEntries_replace place key value _

/-! ## The same call again -/

theorem dropParams_putParam (b : Builder) (place : ParamPlace) (key value : Text) :
    ((b.dropParams key).putParam place (key, value)).dropParams key = b.dropParams key := by
  cases place <;> simp [dropParams, putParam]

theorem run_replace_replace (b : Builder) (place : ParamPlace) (key value : Text)
    (before after : List Operation) :
    let call := Operation.addQueryParam place key value true
    b.run (before ++ call :: call :: after) = b.run (before ++ call :: after) := by
  intro call
  have hcall (b : Builder) :
      b.applyOrKeep call = (b.dropParams key).putParam place (key, value) := rfl
  have htwice (b : Builder) : (b.applyOrKeep call).applyOrKeep call = b.applyOrKeep call := by
    rw [hcall, hcall, dropParams_putParam]
  rw [run, run, List.foldl_append, List.foldl_append, List.foldl_cons, List.foldl_cons,
    List.foldl_cons, htwice]

/-! ## Every run -/

/-- **Parameters of a key can be set again.**  The entries of a key depend on the calls for this
key only, whatever else a run does.  After a call that replaces, and no other call for its key,
the entry of this call is the only one.  The same replacing call twice in a row is as good as
once. -/
theorem entriesOf_of_run (b : Builder) (key : Text) (ops : List Operation) :
    (∀ others : List Operation,
        others.filter (·.isCallFor key) = ops.filter (·.isCallFor key) →
          (b.run others).entriesOf key = (b.run ops).entriesOf key) ∧
      (∀ before place value after, ops = before ++ .addQueryParam place key value true :: after →
        (∀ op ∈ after, op.isCallFor key = false) →
          (b.run ops).entriesOf key =
            if place = .suffix then ⟨[], [(key, value)]⟩ else ⟨[(key, value)], []⟩) ∧
      ∀ place value after,
        let call := Operation.addQueryParam place key value true
        b.run (ops ++ call :: call :: after) = b.run (ops ++ call :: after) := by
  refine ⟨fun others hcalls => ?_, ?_, fun place value after => ?_⟩
  · rw [entriesOf_run, entriesOf_run, hcalls]
  · rintro before place value after rfl hafter
    rw [entriesOf_run_replace hafter, Entries.put_empty]
  · exact run_replace_replace b place key value ops after

/-- A parameter that moves from the last place to the first, with another one set in between. -/
theorem entriesOf_of_run_moved :
    ∃ base, Uri.parse "http://h" = .ok base ∧
      let moved : List Operation := [.addQueryParam .suffix "k" "1" false,
        .addQueryParam .last "j" "2" true, .addQueryParam .first "k" "3" true,
        .addQueryParam .suffix "j" "4" false]
      let plain : List Operation := [.addQueryParam .suffix "k" "1" false,
        .addQueryParam .first "k" "3" true]
      ((ofUri base).run plain).entriesOf "k" = ((ofUri base).run moved).entriesOf "k" ∧
        ((ofUri base).run moved).entriesOf "k" = ⟨[("k".toList, "3".toList)], []⟩ := by
  have hparse : Uri.parse "http://h" = .ok {
      scheme := "http", host := "h", text := "http://h" } := by
    rfl
  refine ⟨_, hparse, ?_⟩
  intro moved plain
  obtain ⟨hcalls, hlast, -⟩ := entriesOf_of_run (ofUri _) "k" moved
  refine ⟨hcalls plain rfl, ?_⟩
  exact hlast [.addQueryParam .suffix "k" "1" false, .addQueryParam .last "j" "2" true] .first "3"
    [.addQueryParam .suffix "j" "4" false] rfl (by simp [Operation.isCallFor])

end Builder
end OutboundHttp
