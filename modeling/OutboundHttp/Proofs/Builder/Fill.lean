import OutboundHttp.Proofs.Builder.Substitute
import OutboundHttp.Proofs.Text.Cut

/-!
# Filling the slots of a text

A slot is a token in braces.  `fill` reads a text once from left to right and puts the
value of each slot that has one in its place.  Substitution goes over the text once for
each token instead, and over what earlier tokens have put there.  Where slots are not
nested, and values bring no braces, the two come to the same (`substitute_eq_fill`): such a
text is a row of slots and of texts between them (`Slotted`), and a slot that has given
way leaves nothing in which another could be found.
-/
namespace OutboundHttp
namespace Builder

open Text

variable {segments : List (Text × Text)} {text : Text}

/-! ## One pass -/

/-- Reading from left to right, every slot that has a value gives way to it; `skip`
characters of the slot last filled are still to be passed over. -/
def fillFrom (segments : List (Text × Text)) : Nat → Text → Text
  | _, [] => []
  | skip + 1, _ :: rest => fillFrom segments skip rest
  | 0, c :: rest =>
    match segments.find? (·.1.isPrefixOf (c :: rest)) with
    | some segment => segment.2 ++ fillFrom segments (segment.1.length - 1) rest
    | none => c :: fillFrom segments 0 rest

/-- The text with the value of each slot that has one in its place, filled in one pass. -/
def fill (segments : List (Text × Text)) (text : Text) : Text :=
  fillFrom segments 0 text

@[simp] theorem fill_empty : fill segments [] = [] := rfl

theorem fillFrom_append {skip : Nat} {before : Text} (h : before.length = skip) (text : Text) :
    fillFrom segments skip (before ++ text) = fill segments text := by
  induction before generalizing skip with
  | nil =>
    obtain rfl := h
    rfl
  | cons c before ih =>
    obtain rfl := h
    exact ih rfl

theorem fill_cons_of_no_match {c : Char} {rest : Text}
    (h : ∀ segment ∈ segments, ¬ segment.1 <+: c :: rest) :
    fill segments (c :: rest) = c :: fill segments rest := by
  have hnone : segments.find? (·.1.isPrefixOf (c :: rest)) = none := by
    simpa using h
  rw [fill, fillFrom, hnone]
  rfl

@[simp] theorem fill_nil (text : Text) : fill [] text = text := by
  induction text with
  | nil => rfl
  | cons c rest ih => rw [fill_cons_of_no_match (List.forall_mem_nil _), ih]

/-- A single segment is filled in as it is substituted. -/
theorem replaceAll_eq_fill (segment : Text × Text) (text : Text) :
    replaceAll segment.1 segment.2 text = fill [segment] text := by
  suffices h : ∀ skip, replaceFrom segment.1 segment.2 skip text = fillFrom [segment] skip text from
    h 0
  induction text with
  | nil =>
    intro skip
    cases skip <;> rfl
  | cons c rest ih =>
    intro skip
    cases skip with
    | succ skip => exact ih skip
    | zero =>
      rw [replaceFrom, fillFrom, List.find?_singleton]
      split
      · rw [ih]
      · rw [ih]

/-! ## Braces -/

/-- The text has no braces. -/
def IsBraceless (text : Text) : Prop :=
  '{' ∉ text ∧ '}' ∉ text

instance (text : Text) : Decidable (IsBraceless text) :=
  inferInstanceAs (Decidable (_ ∧ _))

/-- The segments belong to tokens without braces, and their values have none. -/
def AreBraceless (segments : List (Text × Text)) : Prop :=
  ∀ segment ∈ segments, ∃ token, IsBraceless token ∧ segment.1 = segmentKey token ∧
    IsBraceless segment.2

theorem areBraceless_cons {segment : Text × Text} :
    AreBraceless (segment :: segments) ↔
      (∃ token, IsBraceless token ∧ segment.1 = segmentKey token ∧ IsBraceless segment.2) ∧
        AreBraceless segments :=
  List.forall_mem_cons

/-- A slot that a text begins with is the one that stands there. -/
theorem segmentKey_prefix_iff {token other : Text} (htoken : '}' ∉ token) (hother : '}' ∉ other)
    (after : Text) : segmentKey other <+: segmentKey token ++ after ↔ other = token := by
  constructor
  · rintro ⟨rest, h⟩
    -- Both are what stands before the first closing brace.
    have htail : other ++ '}' :: rest = token ++ '}' :: after := by
      simpa [segmentKey] using h
    have hcut := congrArg (cutAt? '}') htail
    rw [cutAt?_append_cons htoken, cutAt?_append_cons hother] at hcut
    exact (Prod.mk.inj (Option.some.inj hcut)).1
  · rintro rfl
    exact List.prefix_append _ _

/-- A start without an opening brace is left alone. -/
theorem fill_append_left (hsegments : AreBraceless segments) {before : Text} (h : '{' ∉ before)
    (text : Text) : fill segments (before ++ text) = before ++ fill segments text := by
  induction before with
  | nil => rfl
  | cons c before ih =>
    rw [List.mem_cons, not_or] at h
    have hnone : ∀ segment ∈ segments, ¬ segment.1 <+: c :: (before ++ text) := by
      intro segment hsegment hstart
      obtain ⟨token, -, hkey, -⟩ := hsegments segment hsegment
      rw [hkey, segmentKey] at hstart
      exact h.1 (List.cons_prefix_cons.mp hstart).1
    rw [List.cons_append, fill_cons_of_no_match hnone, ih h.2]
    rfl

/-- A text without a closing brace is left alone. -/
theorem fill_of_not_mem (hsegments : AreBraceless segments) (h : '}' ∉ text) :
    fill segments text = text := by
  induction text with
  | nil => rfl
  | cons c rest ih =>
    have hnone : ∀ segment ∈ segments, ¬ segment.1 <+: c :: rest := by
      intro segment hsegment hstart
      obtain ⟨token, -, hkey, -⟩ := hsegments segment hsegment
      rw [hkey] at hstart
      exact h (hstart.subset (by simp [segmentKey]))
    rw [fill_cons_of_no_match hnone, ih fun hmem => h (List.mem_cons_of_mem _ hmem)]

/-- The segment for a slot is found by the token in it. -/
theorem find?_segmentKey (hsegments : AreBraceless segments) {token : Text}
    (htoken : IsBraceless token) (after : Text) :
    segments.find? (·.1.isPrefixOf (segmentKey token ++ after)) =
      (segments.lookup (segmentKey token)).map (segmentKey token, ·) := by
  induction segments with
  | nil => rfl
  | cons segment segments ih =>
    obtain ⟨⟨other, hother, hkey, -⟩, hrest⟩ := areBraceless_cons.mp hsegments
    obtain ⟨key, value⟩ := segment
    obtain rfl : key = segmentKey other := hkey
    have hstart := segmentKey_prefix_iff htoken.2 hother.2 after
    by_cases heq : other = token
    · subst heq
      have hyes : (segmentKey other).isPrefixOf (segmentKey other ++ after) = true :=
        List.isPrefixOf_iff_prefix.mpr (hstart.mpr rfl)
      simp only [List.find?_cons, hyes, List.lookup_cons_self, Option.map_some]
    · have hno : (segmentKey other).isPrefixOf (segmentKey token ++ after) = false :=
        Bool.eq_false_iff.mpr fun h => heq (hstart.mp (List.isPrefixOf_iff_prefix.mp h))
      have hne : (segmentKey token == segmentKey other) = false := by
        simpa [segmentKey] using Ne.symm heq
      simp only [List.find?_cons, hno, ih hrest, List.lookup_cons, hne]

/-- **A slot gives way to its value**, or stays if it has none. -/
theorem fill_segmentKey_append (hsegments : AreBraceless segments) {token : Text}
    (htoken : IsBraceless token) (after : Text) :
    fill segments (segmentKey token ++ after) =
      (segments.lookup (segmentKey token)).getD (segmentKey token) ++ fill segments after := by
  have hfind := find?_segmentKey hsegments htoken after
  have hcons : segmentKey token ++ after = '{' :: (token ++ ['}'] ++ after) := rfl
  rw [fill, hcons, fillFrom, ← hcons, hfind]
  cases segments.lookup (segmentKey token) with
  | some value =>
    exact congrArg (value ++ ·) (fillFrom_append (by simp [segmentKey]) after)
  | none =>
    have hrest : '{' ∉ token ++ ['}'] := by
      simp [htoken.1]
    exact congrArg ('{' :: ·) (fill_append_left hsegments hrest after)

/-! ## Texts with slots -/

/-- No opening brace stands between an opening brace and the next closing brace. -/
def Unnested : Text → Prop
  | [] => True
  | c :: rest => (c = '{' → ∀ cut ∈ cutAt? '}' rest, '{' ∉ cut.1) ∧ Unnested rest

instance decidableUnnested : (text : Text) → Decidable (Unnested text)
  | [] => isTrue trivial
  | _ :: rest =>
    have := decidableUnnested rest
    inferInstanceAs (Decidable (_ ∧ _))

theorem Unnested.of_append {before after : Text} (h : Unnested (before ++ after)) :
    Unnested after := by
  induction before with
  | nil => exact h
  | cons c before ih => exact ih h.2

/-- A row of slots and of texts between them that have no opening brace.  Behind the last
slot opening braces may stand, but nothing closes them. -/
inductive Slotted : Text → Prop
  | last {before opened : Text} : '{' ∉ before → '}' ∉ opened → Slotted (before ++ opened)
  | slot {before token after : Text} :
      '{' ∉ before → IsBraceless token → Slotted after →
        Slotted (before ++ (segmentKey token ++ after))

/-- A text in which no slot is nested is a row of slots. -/
theorem Unnested.slotted {text : Text} (h : Unnested text) : Slotted text := by
  -- The text is cut at its first opening brace, and then at the next closing brace.
  rcases cutFirst_cases '{' text with ⟨hbefore, -⟩ | ⟨before, rest, hbefore, htext, -⟩
  · simpa using Slotted.last hbefore (List.not_mem_nil (a := '}'))
  · obtain ⟨hopen, hrest⟩ : Unnested ('{' :: rest) := (htext ▸ h).of_append
    rcases cutFirst_cases '}' rest with ⟨hclosed, -⟩ | ⟨token, after, htoken, hcut, -⟩
    · rw [htext]
      exact Slotted.last hbefore (by simp [hclosed])
    · have hmem : (token, after) ∈ cutAt? '}' rest := by
        rw [hcut, cutAt?_append_cons htoken]
        rfl
      have hafter : Unnested after := by
        rw [hcut, List.append_cons] at hrest
        exact hrest.of_append
      have hslot := Slotted.slot hbefore ⟨hopen rfl _ hmem, htoken⟩ hafter.slotted
      rw [htext, hcut]
      simpa [segmentKey] using hslot
termination_by text.length
decreasing_by rw [htext, hcut]; simp; omega

theorem Slotted.append_left {before : Text} (h : '{' ∉ before) (htext : Slotted text) :
    Slotted (before ++ text) := by
  cases htext with
  | last hfront hopened =>
    rw [← List.append_assoc]
    exact Slotted.last (by simp [h, hfront]) hopened
  | slot hfront htoken hafter =>
    rw [← List.append_assoc]
    exact Slotted.slot (by simp [h, hfront]) htoken hafter

/-- What a slot that is filled leaves behind. -/
theorem lookup_cases (hsegments : AreBraceless segments) (token : Text) :
    (∃ value, segments.lookup (segmentKey token) = some value ∧ IsBraceless value) ∨
      segments.lookup (segmentKey token) = none := by
  cases h : segments.lookup (segmentKey token) with
  | none => exact Or.inr rfl
  | some value =>
    obtain ⟨front, back, rfl, -⟩ := List.lookup_eq_some_iff.mp h
    obtain ⟨-, -, -, hvalue⟩ := hsegments (segmentKey token, value) (by simp)
    exact Or.inl ⟨value, rfl, hvalue⟩

theorem slotted_fill (hsegments : AreBraceless segments) (h : Slotted text) :
    Slotted (fill segments text) := by
  induction h with
  | last hbefore hopened =>
    rw [fill_append_left hsegments hbefore, fill_of_not_mem hsegments hopened]
    exact Slotted.last hbefore hopened
  | @slot before token after hbefore htoken _ ih =>
    rw [fill_append_left hsegments hbefore, fill_segmentKey_append hsegments htoken]
    rcases lookup_cases hsegments token with ⟨value, hvalue, hbraceless⟩ | hnone
    · rw [hvalue]
      exact (ih.append_left hbraceless.1).append_left hbefore
    · rw [hnone]
      exact Slotted.slot hbefore htoken ih

/-- **Two passes are one**, in which the first segments go before the others. -/
theorem fill_fill {first : List (Text × Text)} (hfirst : AreBraceless first)
    (hsegments : AreBraceless segments) (h : Slotted text) :
    fill segments (fill first text) = fill (first ++ segments) text := by
  have hall : AreBraceless (first ++ segments) := List.forall_mem_append.mpr ⟨hfirst, hsegments⟩
  induction h with
  | last hbefore hopened =>
    simp only [fill_append_left, fill_of_not_mem, hfirst, hsegments, hall, hbefore, hopened,
      not_false_eq_true]
  | @slot before token after hbefore htoken _ ih =>
    rw [fill_append_left hfirst hbefore, fill_append_left hall hbefore,
      fill_append_left hsegments hbefore, fill_segmentKey_append hfirst htoken,
      fill_segmentKey_append hall htoken, List.lookup_append]
    rcases lookup_cases hfirst token with ⟨value, hvalue, hbraceless⟩ | hnone
    -- The second pass leaves a value alone, and comes upon a slot that has stayed.
    · rw [hvalue, Option.getD_some, fill_append_left hsegments hbraceless.1, ih]
      rfl
    · rw [hnone, Option.getD_none, fill_segmentKey_append hsegments htoken, ih]
      rfl

/-- **Substitution fills the slots of a text in one pass.** -/
theorem substitute_eq_fill (hsegments : AreBraceless segments) (h : Slotted text) :
    substitute segments text = fill segments text := by
  induction segments generalizing text with
  | nil => exact (fill_nil text).symm
  | cons segment segments ih =>
    obtain ⟨hsegment, hrest⟩ := areBraceless_cons.mp hsegments
    have hone : AreBraceless [segment] := areBraceless_cons.mpr ⟨hsegment, List.forall_mem_nil _⟩
    rw [substitute_cons, replaceAll_eq_fill, ih hrest (slotted_fill hone h),
      fill_fill hone hrest h]
    rfl

end Builder
end OutboundHttp
