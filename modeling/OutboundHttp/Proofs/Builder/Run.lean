import OutboundHttp.Builder.Build
import OutboundHttp.Proofs.Builder.Substitute
import OutboundHttp.Proofs.Data.Result

/-!
# Runs of operations

An operation that does not fail has its `effect`, and one that fails changes nothing.  So
what every operation preserves when it succeeds is preserved by every run (`run_preserves`),
and what some operations set and all others keep is as it was set last (`read_run`).  The
first invariant is `Rooted`: no operation changes the base url of a builder, and segments are
only ever put under tokens in braces.  A builder that has also gone through factories is known
by the operations that made it (`Made`).
-/
namespace OutboundHttp
namespace Builder

variable {b b' : Builder} {ops : List Operation}

/-- When a segment can be set, and what that changes. -/
theorem setSegment_eq_ok_iff {token value : Text} {unchecked : Bool} :
    b.setSegment token value unchecked = .ok b' ↔
      (unchecked = false →
        ∃ url, b.resolveUrl = .ok url ∧ Text.occursIn (segmentKey token) url.text = true) ∧
      b' = { b with segments := b.segments.insert (segmentKey token) value } := by
  cases unchecked with
  | true => exact ⟨fun h => ⟨nofun, (Except.ok.inj h).symm⟩, fun h => h.2 ▸ rfl⟩
  | false =>
    have hset : b.setSegment token value false = HttpError.ofUri b.resolveUrl >>= fun url =>
        if !Text.occursIn (segmentKey token) url.text then throw (.undefinedSegment token)
        else pure { b with segments := b.segments.insert (segmentKey token) value } := rfl
    rw [hset, Result.bind_eq_ok_iff]
    constructor
    · rintro ⟨url, hurl, h⟩
      cases hoccurs : Text.occursIn (segmentKey token) url.text with
      | false =>
        rw [hoccurs] at h
        exact absurd h Result.throw_ne_ok
      | true =>
        rw [hoccurs] at h
        exact ⟨fun _ => ⟨url, Result.ofUri_eq_ok_iff.mp hurl, hoccurs⟩,
          (Result.pure_eq_ok_iff.mp h).symm⟩
    · rintro ⟨hchecked, rfl⟩
      obtain ⟨url, hurl, hoccurs⟩ := hchecked rfl
      refine ⟨url, Result.ofUri_eq_ok_iff.mpr hurl, ?_⟩
      rw [hoccurs]
      rfl

/-! ## One operation -/

/-- The builder after an operation, should that not fail. -/
def effect (b : Builder) : Operation → Builder
  | .setSegment token value _ => { b with segments := b.segments.insert (segmentKey token) value }
  | .addFormPart part => { b with formParts := b.formParts ++ [part] }
  | op => b.applyOrKeep op

theorem eq_effect_of_apply {op : Operation} (h : b.apply op = .ok b') : b' = b.effect op := by
  cases op with
  | setSegment token value unchecked =>
    obtain ⟨-, rfl⟩ := setSegment_eq_ok_iff.mp h
    rfl
  | addFormPart part =>
    rw [apply] at h
    split at h <;> cases h
    rfl
  | _ =>
    -- All other operations succeed.
    cases h
    rfl

/-- Setting a segment can fail, and adding a part to a form that is not posted. -/
theorem exists_of_apply_error {op : Operation} {e : HttpError} (h : b.apply op = .error e) :
    (∃ token value unchecked, op = .setSegment token value unchecked) ∨
      ∃ part, op = .addFormPart part ∧ b.method ≠ .post := by
  cases op with
  | setSegment token value unchecked => exact Or.inl ⟨token, value, unchecked, rfl⟩
  | addFormPart part =>
    rw [apply] at h
    split at h <;> cases h
    exact Or.inr ⟨part, rfl, ‹_›⟩
  | _ => cases h

/-- What has nothing to do with segments and forms does not tell whether an operation has
failed. -/
theorem read_applyOrKeep {α : Type} {read : Builder → α}
    (hsegments : ∀ b segments, read { b with segments } = read b)
    (hform : ∀ b formParts, read { b with formParts } = read b) (b : Builder) (op : Operation) :
    read (b.applyOrKeep op) = read (b.effect op) := by
  unfold applyOrKeep
  split
  · exact congrArg read (eq_effect_of_apply ‹_›)
  · obtain ⟨token, value, unchecked, rfl⟩ | ⟨part, rfl, -⟩ := exists_of_apply_error ‹_›
    · exact (hsegments b _).symm
    · exact (hform b _).symm

/-- What an operation can do to the base url and the segments. -/
theorem segments_of_apply {op : Operation} (h : b.apply op = .ok b') :
    b'.base = b.base ∧ (b'.segments = b.segments ∨
      ∃ token value, b'.segments = b.segments.insert (segmentKey token) value) := by
  rw [eq_effect_of_apply h]
  cases op with
  | setSegment token value unchecked => exact ⟨rfl, Or.inr ⟨token, value, rfl⟩⟩
  | addQueryParam place key value replace =>
    cases replace <;> cases place <;> exact ⟨rfl, Or.inl rfl⟩
  | json written => cases written <;> exact ⟨rfl, Or.inl rfl⟩
  | _ => exact ⟨rfl, Or.inl rfl⟩

/-! ## A run -/

theorem run_cons (b : Builder) (op : Operation) (ops : List Operation) :
    b.run (op :: ops) = (b.applyOrKeep op).run ops :=
  rfl

/-- **What every successful operation preserves, every run preserves.** -/
theorem run_preserves {P : Builder → Prop}
    (hstep : ∀ {b b' : Builder} {op : Operation}, P b → b.apply op = .ok b' → P b')
    (hb : P b) (ops : List Operation) : P (b.run ops) := by
  induction ops generalizing b with
  | nil => exact hb
  | cons op ops ih =>
    have happlied : P (b.applyOrKeep op) := by
      unfold applyOrKeep
      split
      · exact hstep hb ‹_›
      · exact hb
    exact ih happlied

/-- What a run sets last. -/
def lastSet? {α : Type} (set? : Operation → Option α) (ops : List Operation) : Option α :=
  (ops.filterMap set?).getLast?

theorem lastSet?_cons {α : Type} (set? : Operation → Option α) (op : Operation)
    (ops : List Operation) :
    lastSet? set? (op :: ops) = (lastSet? set? ops).or (set? op) := by
  rw [lastSet?, lastSet?, List.filterMap_cons]
  cases set? op with
  | none => simp
  | some a => simp [List.getLast?_cons, Option.or_some]

/-- **What is set by some operations and kept by all others is as it was set last.** -/
theorem read_run {α β : Type} (read : Builder → β) {set? : Operation → Option α} {put : α → β}
    (hsegments : ∀ b segments, read { b with segments } = read b)
    (hform : ∀ b formParts, read { b with formParts } = read b)
    (heffect : ∀ b op, read (b.effect op) = ((set? op).map put).getD (read b)) (b : Builder)
    (ops : List Operation) : read (b.run ops) = ((lastSet? set? ops).map put).getD (read b) := by
  induction ops generalizing b with
  | nil => rfl
  | cons op ops ih =>
    rw [run_cons, ih, read_applyOrKeep hsegments hform, heffect, lastSet?_cons]
    cases lastSet? set? ops <;> rfl

/-- The builder stands on a base url, and its segments belong to tokens in braces. -/
structure Rooted (base : Uri) (b : Builder) : Prop where
  base : b.base = base
  keys : AreKeyed b.segments.entries

variable {base : Uri}

theorem rooted_ofUri (base : Uri) : Rooted base (ofUri base) :=
  ⟨rfl, List.forall_mem_nil _⟩

theorem Rooted.apply (hb : Rooted base b) {op : Operation} (h : b.apply op = .ok b') :
    Rooted base b' := by
  obtain ⟨hbase, hsegments⟩ := segments_of_apply h
  refine ⟨hbase.trans hb.base, fun segment hsegment => ?_⟩
  rcases hsegments with hsegments | ⟨token, value, hsegments⟩ <;> rw [hsegments] at hsegment
  · exact hb.keys segment hsegment
  · rcases mem_of_mem_insertSorted hsegment with rfl | hsegment
    · exact ⟨token, rfl⟩
    · exact hb.keys segment hsegment

theorem rooted_run (base : Uri) (ops : List Operation) : Rooted base ((ofUri base).run ops) :=
  run_preserves (fun hb h => hb.apply h) (rooted_ofUri base) ops

/-! ## Histories -/

/-- The builder has come about by operations that succeeded, in this order.  A copy that
a factory hands out has the history of the root, and a plain builder has none. -/
inductive Made : List Operation → Builder → Prop
  | ofUri (base : Uri) : Made [] (ofUri base)
  | apply {ops : List Operation} {b b' : Builder} {op : Operation} :
      Made ops b → b.apply op = .ok b' → Made (ops ++ [op]) b'
  | create {ops : List Operation} {factory : Factory} :
      Made ops factory.root → Made ops factory.create
  | createBuilder (factory : Factory) (base : Uri) : Made [] (factory.createBuilder base)

/-- A run goes on with a history by those of its operations that succeed. -/
theorem Made.run (h : Made ops b) (more : List Operation) :
    ∃ done, done.Sublist more ∧ Made (ops ++ done) (b.run more) := by
  induction more generalizing ops b with
  | nil =>
    refine ⟨[], .slnil, ?_⟩
    rw [List.append_nil]
    exact h
  | cons op more ih =>
    rw [run_cons, applyOrKeep]
    split
    · obtain ⟨done, hsub, hdone⟩ := ih (h.apply ‹_›)
      exact ⟨op :: done, hsub.cons_cons op, by simpa using hdone⟩
    · obtain ⟨done, hsub, hdone⟩ := ih h
      exact ⟨done, hsub.cons op, hdone⟩

theorem Made.rooted (h : Made ops b) : ∃ base, Rooted base b := by
  induction h with
  | ofUri base => exact ⟨base, rooted_ofUri base⟩
  | apply _ happly ih =>
    obtain ⟨base, hb⟩ := ih
    exact ⟨base, hb.apply happly⟩
  | create _ ih => exact ih
  | createBuilder _ base => exact ⟨base, rooted_ofUri base⟩

end Builder
end OutboundHttp
