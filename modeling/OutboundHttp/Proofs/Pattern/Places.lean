import OutboundHttp.Pattern
import OutboundHttp.Proofs.Text.Cut

/-!
# The places a pattern leads to

The matches of a pattern are a list in order of preference, and the order matters only
where two of them can be completed.  This module says which places are in the list,
constructor by constructor, and gives the two rules by which a whole pattern is read:

* where all matches capture the same, or all ways to complete the first part do, the
  answer is found by soundness and completeness alone, without regard to order
  (`captures?_eq_some_iff`, `captures?_both_eq_some_iff`);
* what a match has captured is a list of names and texts, in which the pieces of the
  text behind it play no part (`Place.parts`).
-/
namespace OutboundHttp
namespace Pattern

variable {ν : Type}

/-! ## What a match has captured -/

/-- The parts captured so far, as texts, the latest first. -/
def Place.parts (place : Place ν) : List (ν × Text) :=
  place.captured.map fun (name, span) => (name, span.chars)

@[simp] theorem Place.parts_start (text : Text) : (Place.start text : Place ν).parts = [] := rfl

theorem Place.part?_eq_lookup [BEq ν] (place : Place ν) (name : ν) :
    place.part? name = place.parts.lookup name := by
  unfold Place.part? Place.parts
  induction place.captured with
  | nil => rfl
  | cons entry rest ih =>
    obtain ⟨other, span⟩ := entry
    simp only [List.map_cons, List.lookup_cons]
    cases name == other
    · exact ih
    · rfl

/-- What is captured in the preferred match of a pattern. -/
def captures? (limit : Nat) (pattern : Pattern ν) (place : Place ν) :
    Option (List (ν × Text)) :=
  (pattern.placesFrom limit place).head?.map Place.parts

/-! ## Preference -/

variable {limit : Nat}

section Preference

attribute [local simp] placesFrom

/-- After the first part, the second decides. -/
theorem captures?_both (first second : Pattern ν) (place : Place ν) :
    captures? limit (both first second) place =
      (first.placesFrom limit place).findSome? (captures? limit second) := by
  unfold captures?
  rw [placesFrom, List.head?_flatMap, List.map_findSome?]
  rfl

/-- A part that may be left out is left out only where nothing can be completed
with it. -/
theorem captures?_both_optional (first second : Pattern ν) (place : Place ν) :
    captures? limit (both (optional first) second) place =
      (captures? limit (both first second) place).or (captures? limit second place) := by
  rw [captures?_both, captures?_both, optional, placesFrom, List.findSome?_append]
  simp

theorem captures?_atStart_both (second : Pattern ν) (text : Text) :
    captures? limit (both atStart second) (.start text) = captures? limit second (.start text) := by
  simp [captures?, Place.start]

end Preference

/-- Where all matches of a pattern capture the same, preference does not matter. -/
theorem captures?_eq_some_iff {pattern : Pattern ν} {place : Place ν} {C : Prop}
    {value parts : List (ν × Text)}
    (sound : ∀ after ∈ pattern.placesFrom limit place, C ∧ after.parts = value)
    (complete : C → ∃ after, after ∈ pattern.placesFrom limit place) :
    captures? limit pattern place = some parts ↔ C ∧ parts = value := by
  rw [captures?]
  cases hplaces : pattern.placesFrom limit place with
  | nil =>
    rw [hplaces] at complete
    simp only [List.head?_nil, Option.map_none, reduceCtorEq, false_iff, not_and]
    intro hC
    obtain ⟨after, hafter⟩ := complete hC
    cases hafter
  | cons after rest =>
    obtain ⟨hC, hparts⟩ := sound after (by rw [hplaces]; exact List.mem_cons_self)
    simp only [List.head?_cons, Option.map_some, Option.some.injEq, hparts, hC, true_and]
    exact eq_comm

/-- Where all ways to complete the first part capture the same, its preference does not
matter. -/
theorem captures?_both_eq_some_iff {first second : Pattern ν} {place : Place ν} {C : Prop}
    {value parts : List (ν × Text)}
    (sound : ∀ mid ∈ first.placesFrom limit place, ∀ parts,
      captures? limit second mid = some parts → C ∧ parts = value)
    (complete : C → ∃ mid ∈ first.placesFrom limit place, ∃ parts,
      captures? limit second mid = some parts) :
    captures? limit (both first second) place = some parts ↔ C ∧ parts = value := by
  rw [captures?_both]
  cases hfound : (first.placesFrom limit place).findSome? (captures? limit second) with
  | some found =>
    obtain ⟨mid, hmid, hparts⟩ := List.exists_of_findSome?_eq_some hfound
    obtain ⟨hC, hvalue⟩ := sound mid hmid found hparts
    simp only [Option.some.injEq, hvalue, hC, true_and]
    exact eq_comm
  | none =>
    simp only [reduceCtorEq, false_iff, not_and]
    intro hC
    obtain ⟨mid, hmid, parts, hparts⟩ := complete hC
    rw [List.findSome?_eq_none_iff.mp hfound mid hmid] at hparts
    cases hparts

/-! ## The places of each pattern -/

theorem mem_one {cls : Char → Bool} {place after : Place ν} :
    after ∈ (one cls).placesFrom limit place ↔
      ∃ c, cls c ∧ place.rest = c :: after.rest ∧ after.passed = place.passed + 1 ∧
        after.captured = place.captured := by
  obtain ⟨rest, passed, captured⟩ := place
  obtain ⟨rest', passed', captured'⟩ := after
  rw [placesFrom]
  cases rest with
  | nil => simp
  | cons c rest =>
    by_cases h : cls c
    · simp only [h, if_true, List.mem_singleton, Place.mk.injEq, List.cons.injEq]
      grind
    · simp only [h, Bool.false_eq_true, if_false, List.not_mem_nil, List.cons.injEq, false_iff]
      grind

theorem mem_char {c : Char} {place after : Place ν} :
    after ∈ (char c).placesFrom limit place ↔
      place.rest = c :: after.rest ∧ after.passed = place.passed + 1 ∧
        after.captured = place.captured := by
  simp [char, mem_one]

theorem mem_both {first second : Pattern ν} {place after : Place ν} :
    after ∈ (both first second).placesFrom limit place ↔
      ∃ mid ∈ first.placesFrom limit place, after ∈ second.placesFrom limit mid := by
  simp [placesFrom]

theorem mem_either {first second : Pattern ν} {place after : Place ν} :
    after ∈ (either first second).placesFrom limit place ↔
      after ∈ first.placesFrom limit place ∨ after ∈ second.placesFrom limit place := by
  simp [placesFrom]

theorem mem_optional {body : Pattern ν} {place after : Place ν} :
    after ∈ (optional body).placesFrom limit place ↔
      after ∈ body.placesFrom limit place ∨ after = place := by
  simp [optional, placesFrom]

theorem mem_atStart {place after : Place ν} :
    after ∈ atStart.placesFrom limit place ↔ place.passed = 0 ∧ after = place := by
  rw [placesFrom]
  split <;> simp_all

/-- A place reached over some characters of a text, with nothing captured on the way. -/
structure Place.Over (place : Place ν) (taken : Text) (after : Place ν) : Prop where
  rest : place.rest = taken ++ after.rest
  passed : after.passed = place.passed + taken.length
  captured : after.captured = place.captured

/-- The place after the characters `taken`, if these are the next ones. -/
theorem Place.Over.mk_iff {taken rest : Text} {passed : Nat}
    {captured : List (ν × Span)} {after : Place ν} :
    Place.Over ⟨taken ++ rest, passed, captured⟩ taken after ↔
      after = ⟨rest, passed + taken.length, captured⟩ := by
  obtain ⟨rest', passed', captured'⟩ := after
  constructor
  · rintro ⟨hrest, hpassed, hcaptured⟩
    simp only [List.append_cancel_left_eq] at hrest hpassed hcaptured
    rw [hrest, hpassed, hcaptured]
  · rintro h
    cases h
    exact ⟨rfl, rfl, rfl⟩

theorem Place.Over.nil_iff {place after : Place ν} : place.Over [] after ↔ after = place := by
  obtain ⟨rest, passed, captured⟩ := place
  simpa using @Place.Over.mk_iff ν [] rest passed captured after

theorem Place.Over.trans {place mid after : Place ν} {s t : Text} (hs : place.Over s mid)
    (ht : mid.Over t after) : place.Over (s ++ t) after where
  rest := by rw [hs.rest, ht.rest, List.append_assoc]
  passed := by rw [ht.passed, hs.passed, List.length_append, Nat.add_assoc]
  captured := ht.captured.trans hs.captured

/-- The place behind the characters `taken`. -/
theorem Place.exists_over {place : Place ν} {taken rest : Text} (h : place.rest = taken ++ rest) :
    ∃ after, place.Over taken after ∧ after.rest = rest :=
  ⟨⟨rest, place.passed + taken.length, place.captured⟩, ⟨h, rfl, rfl⟩, rfl⟩

theorem Place.Over.split {place after : Place ν} {s t : Text} (h : place.Over (s ++ t) after) :
    ∃ mid, place.Over s mid ∧ mid.Over t after := by
  refine ⟨⟨t ++ after.rest, place.passed + s.length, place.captured⟩, ⟨?_, rfl, rfl⟩,
    ⟨rfl, ?_, h.captured⟩⟩
  · rw [h.rest, List.append_assoc]
  · rw [h.passed, List.length_append, Nat.add_assoc]

theorem mem_placesAfter {cls : Char → Bool} {captured : List (ν × Span)} {bound : Option Nat}
    {rest : Text} {passed : Nat} {found : List (Place ν)} {after : Place ν} :
    after ∈ placesAfter cls captured bound rest passed found ↔
      after ∈ found ∨ ∃ s, s ≠ [] ∧ (∀ c ∈ s, cls c) ∧ (∀ b ∈ bound, s.length ≤ b) ∧
        Place.Over ⟨rest, passed, captured⟩ s after := by
  -- On the text that is left: each character adds the place behind it to those found.
  induction rest generalizing bound passed found with
  | nil =>
    rw [placesAfter]
    refine ⟨Or.inl, ?_⟩
    rintro (h | ⟨s, hne, -, -, h⟩)
    · exact h
    · exact absurd (List.append_eq_nil_iff.mp h.rest.symm).1 hne
  | cons c rest ih =>
    rw [placesAfter]
    split
    · rename_i hc
      rw [ih, List.mem_cons]
      constructor
      · rintro ((rfl | h) | ⟨s, hne, hs, hb, h⟩)
        · refine Or.inr ⟨[c], by simp, by simpa using hc.1, fun b hmem => ?_, rfl, rfl, rfl⟩
          rw [hmem] at hc
          have : b ≠ 0 := fun h0 => hc.2 (by rw [h0])
          simp only [List.length_singleton]
          omega
        · exact Or.inl h
        · refine Or.inr ⟨c :: s, by simp, List.forall_mem_cons.mpr ⟨hc.1, hs⟩, fun b hmem => ?_, ?_⟩
          · have := hb (b - 1) (by rw [hmem]; rfl)
            have : s.length ≠ 0 := fun h0 => hne (List.length_eq_zero_iff.mp h0)
            simp only [List.length_cons]
            omega
          · have step : Place.Over ⟨c :: rest, passed, captured⟩ [c] ⟨rest, passed + 1, captured⟩ :=
              ⟨rfl, rfl, rfl⟩
            exact step.trans h
      · rintro (h | ⟨s, hne, hs, hb, h⟩)
        · exact Or.inl (Or.inr h)
        · cases s with
          | nil => exact absurd rfl hne
          | cons c' s =>
            obtain ⟨rfl, hrest⟩ := List.cons.inj h.rest
            have hover : Place.Over ⟨rest, passed + 1, captured⟩ s after :=
              ⟨hrest, by rw [h.passed, List.length_cons, Nat.add_right_comm, Nat.add_assoc],
                h.captured⟩
            by_cases hnil : s = []
            · rw [hnil] at hover
              exact Or.inl (Or.inl (Place.Over.nil_iff.mp hover))
            · refine Or.inr ⟨s, hnil, (List.forall_mem_cons.mp hs).2, fun b hmem => ?_, hover⟩
              obtain ⟨b', hb', rfl⟩ := Option.map_eq_some_iff.mp hmem
              have := hb b' hb'
              simp only [List.length_cons] at this
              omega
    · rename_i hc
      refine ⟨Or.inl, ?_⟩
      rintro (h | ⟨s, hne, hs, hb, h⟩)
      · exact h
      · exfalso
        cases s with
        | nil => exact hne rfl
        | cons c' s =>
          obtain ⟨rfl, -⟩ := List.cons.inj h.rest
          refine hc ⟨hs c List.mem_cons_self, fun h0 => ?_⟩
          have := hb 0 h0
          simp at this

/-- A run leads over each text of its class that is neither too short nor too long. -/
theorem mem_run {least : Nat} {most : Option Nat} {cls : Char → Bool} {place after : Place ν} :
    after ∈ (run least most cls).placesFrom limit place ↔
      ∃ s, (∀ c ∈ s, cls c) ∧ least ≤ s.length ∧ (∀ b ∈ most, s.length ≤ b) ∧
        place.Over s after := by
  rw [placesFrom, List.mem_filter, mem_placesAfter, List.mem_singleton, decide_eq_true_iff]
  constructor
  · rintro ⟨rfl | ⟨s, -, hs, hb, h⟩, hleast⟩
    · exact ⟨[], by simp, by simp at hleast ⊢; omega, by simp, Place.Over.nil_iff.mpr rfl⟩
    · exact ⟨s, hs, by have := h.passed; simp only at this; omega, hb, h⟩
  · rintro ⟨s, hs, hleast, hb, h⟩
    refine ⟨?_, by have := h.passed; omega⟩
    by_cases hnil : s = []
    · rw [hnil] at h
      exact Or.inl (Place.Over.nil_iff.mp h)
    · exact Or.inr ⟨s, hnil, hs, hb, h⟩

/-- A captured pattern leads where its body leads, with one part more. -/
theorem mem_capture {name : ν} {body : Pattern ν} {place after : Place ν} :
    after ∈ (capture name body).placesFrom limit place ↔
      ∃ inner ∈ body.placesFrom limit place,
        after = { inner with
          captured := (name, ⟨place.rest, inner.passed - place.passed⟩) :: inner.captured } := by
  simp only [placesFrom, List.mem_map]
  exact ⟨fun ⟨a, ha, h⟩ => ⟨a, ha, h.symm⟩, fun ⟨a, ha, h⟩ => ⟨a, ha, h.symm⟩⟩

/-- A place reached over some characters of a text, with some parts captured on the way. -/
structure Place.Past (place : Place ν) (taken : Text) (captures : List (ν × Text))
    (after : Place ν) : Prop where
  rest : place.rest = taken ++ after.rest
  passed : after.passed = place.passed + taken.length
  parts : after.parts = captures ++ place.parts

theorem Place.Over.past {place after : Place ν} {s : Text} (h : place.Over s after) :
    place.Past s [] after where
  rest := h.rest
  passed := h.passed
  parts := by simp [Place.parts, h.captured]

theorem Place.Past.trans {place mid after : Place ν} {s t : Text} {cs ct : List (ν × Text)}
    (hs : place.Past s cs mid) (ht : mid.Past t ct after) :
    place.Past (s ++ t) (ct ++ cs) after where
  rest := by rw [hs.rest, ht.rest, List.append_assoc]
  passed := by rw [ht.passed, hs.passed, List.length_append, Nat.add_assoc]
  parts := by rw [ht.parts, hs.parts, List.append_assoc]

/-- The part captured over some characters is these characters. -/
theorem Place.Over.past_capture {place inner : Place ν} {s : Text} (h : place.Over s inner)
    (name : ν) : place.Past s [(name, s)] { inner with
      captured := (name, ⟨place.rest, inner.passed - place.passed⟩) :: inner.captured } where
  rest := h.rest
  passed := h.passed
  parts := by simp [Place.parts, Span.chars, h.rest, h.passed, h.captured]

/-! ## A run that a character introduces -/

/-- What a run may take. -/
structure IsRun (least : Nat) (most : Option Nat) (cls : Char → Bool) (run : Text) : Prop where
  cls : ∀ c ∈ run, cls c
  least : least ≤ run.length
  most : ∀ b ∈ most, run.length ≤ b

variable {name : ν} {c : Char} {least : Nat} {most : Option Nat} {cls : Char → Bool}
  {place after : Place ν}

theorem past_of_mem_capture_run (h : after ∈ (capture name (run least most cls)).placesFrom limit place) :
    ∃ s, IsRun least most cls s ∧ place.Past s [(name, s)] after := by
  obtain ⟨inner, hinner, rfl⟩ := mem_capture.mp h
  obtain ⟨s, hs, hleast, hmost, hover⟩ := mem_run.mp hinner
  exact ⟨s, ⟨hs, hleast, hmost⟩, hover.past_capture name⟩

theorem exists_mem_capture {body : Pattern ν} {s : Text} {inner : Place ν}
    (hover : place.Over s inner) (h : inner ∈ body.placesFrom limit place) (name : ν) :
    ∃ after ∈ (capture name body).placesFrom limit place, place.Past s [(name, s)] after :=
  ⟨_, mem_capture.mpr ⟨inner, h, rfl⟩, hover.past_capture name⟩

theorem exists_mem_capture_run (limit : Nat) (name : ν) {s rest : Text} (hs : IsRun least most cls s)
    (hrest : place.rest = s ++ rest) :
    ∃ after ∈ (capture name (run least most cls)).placesFrom limit place,
      place.Past s [(name, s)] after := by
  obtain ⟨inner, hover, -⟩ := Place.exists_over hrest
  exact exists_mem_capture hover (mem_run.mpr ⟨s, hs.cls, hs.least, hs.most, hover⟩) name

theorem over_of_mem_char (h : after ∈ (char c).placesFrom limit place) : place.Over [c] after := by
  obtain ⟨hrest, hpassed, hcaptured⟩ := mem_char.mp h
  exact ⟨hrest, hpassed, hcaptured⟩

theorem exists_mem_char (limit : Nat) {rest : Text} (hrest : place.rest = c :: rest) :
    ∃ after ∈ (char c).placesFrom limit place, place.Over [c] after ∧ after.rest = rest := by
  obtain ⟨after, hover, hafter⟩ := @Place.exists_over ν place [c] rest hrest
  exact ⟨after, mem_char.mpr ⟨hover.rest, hover.passed, hover.captured⟩, hover, hafter⟩

/-- A character and the run behind it, both or none. -/
theorem past_of_mem_optional
    (h : after ∈ (optional (both (char c) (capture name (run least most cls)))).placesFrom limit place) :
    ∃ s : Option Text, (∀ r ∈ s, IsRun least most cls r) ∧
      place.Past (Text.introduced c s) (s.toList.map (name, ·)) after := by
  rcases mem_optional.mp h with h | rfl
  · obtain ⟨mid, hmid, hafter⟩ := mem_both.mp h
    obtain ⟨s, hs, hpast⟩ := past_of_mem_capture_run hafter
    refine ⟨some s, fun r hr => ?_, (over_of_mem_char hmid).past.trans hpast⟩
    cases hr
    exact hs
  · exact ⟨none, by simp, (Place.Over.nil_iff.mpr rfl).past⟩

theorem exists_mem_optional (limit : Nat) (name : ν) {s : Option Text} {rest : Text}
    (hs : ∀ r ∈ s, IsRun least most cls r) (hrest : place.rest = Text.introduced c s ++ rest) :
    ∃ after ∈ (optional (both (char c) (capture name (run least most cls)))).placesFrom limit place,
      place.Past (Text.introduced c s) (s.toList.map (name, ·)) after ∧ after.rest = rest := by
  cases s with
  | none => exact ⟨place, mem_optional.mpr (Or.inr rfl), (Place.Over.nil_iff.mpr rfl).past, hrest⟩
  | some s =>
    obtain ⟨mid, hmid, hover, hmidrest⟩ := exists_mem_char limit hrest
    obtain ⟨after, hafter, hpast⟩ := exists_mem_capture_run limit name (hs s rfl) hmidrest
    have hall := hover.past.trans hpast
    refine ⟨after, mem_optional.mpr (Or.inl (mem_both.mpr ⟨mid, hmid, hafter⟩)), hall, ?_⟩
    have := hall.rest
    rw [hrest] at this
    exact (List.append_cancel_left this).symm

/-! ## Repetitions -/

theorem repetitions_eq_append (step : Place ν → List (Place ν)) (n : Nat) (place : Place ν)
    (found : List (Place ν)) :
    repetitions step n place found = repetitions step n place [] ++ found := by
  have fold : ∀ n, (∀ place found,
      repetitions step n place found = repetitions step n place [] ++ found) →
      ∀ (l : List (Place ν)) found, l.foldr (repetitions step n) found =
        l.flatMap (repetitions step n · []) ++ found := by
    intro n hn l found
    induction l with
    | nil => rfl
    | cons a l ih => rw [List.foldr_cons, hn, ih, List.flatMap_cons, List.append_assoc]
  induction n generalizing place found with
  | zero => rfl
  | succ n ih =>
    rw [repetitions, fold n ih, repetitions, fold n ih _ [place], List.append_assoc]
    rfl

theorem mem_repetitions_succ {step : Place ν → List (Place ν)} {n : Nat} {place after : Place ν} :
    after ∈ repetitions step (n + 1) place [] ↔
      (∃ mid ∈ step place, after ∈ repetitions step n mid []) ∨ after = place := by
  have fold : ∀ l : List (Place ν), after ∈ l.foldr (repetitions step n) [place] ↔
      (∃ mid ∈ l, after ∈ repetitions step n mid []) ∨ after = place := by
    intro l
    induction l with
    | nil => simp
    | cons a l ih =>
      rw [List.foldr_cons, repetitions_eq_append, List.mem_append, ih]
      simp [or_assoc]
  rw [repetitions, fold]

theorem mem_repetitions_self {step : Place ν → List (Place ν)} {n : Nat} {place : Place ν} :
    place ∈ repetitions step n place [] := by
  cases n with
  | zero => exact List.mem_cons_self
  | succ n => exact mem_repetitions_succ.mpr (Or.inr rfl)

/-- What holds after no repetition, and holds before a step if it holds after it, holds
of all repetitions. -/
theorem of_mem_repetitions {step : Place ν → List (Place ν)} {R : Place ν → Place ν → Prop}
    (refl : ∀ place, R place place)
    (head : ∀ place, ∀ mid ∈ step place, ∀ after, R mid after → R place after)
    {n : Nat} {place after : Place ν} (h : after ∈ repetitions step n place []) :
    R place after := by
  induction n generalizing place with
  | zero => exact List.mem_singleton.mp h ▸ refl place
  | succ n ih =>
    rcases mem_repetitions_succ.mp h with ⟨mid, hmid, hafter⟩ | rfl
    · exact head place mid hmid after (ih hafter)
    · exact refl after

end Pattern
end OutboundHttp
