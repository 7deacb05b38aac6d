import Mathlib.Data.List.Basic

/-!
# Pieces between delimiters

A delimiter whose first element does not come again in it cannot overlap itself, nor begin
in a piece and end in the delimiter behind it.  So a list that was put together from pieces
without the delimiter falls apart into these pieces again (`pieces_append`), and any two lists
with the delimiter between them have their pieces one after the other (`pieces_append_pieces`).
-/
namespace OutboundHttp
namespace Delimited

variable {α : Type} {first : α} {rest : List α}

/-- A delimiter begins nowhere in what does not have its first element. -/
theorem infix_of_infix_append {before after : List α} (h : first ∉ before)
    (hoccurs : first :: rest <:+: before ++ after) : first :: rest <:+: after := by
  induction before with
  | nil => exact hoccurs
  | cons a before ih =>
    rw [List.mem_cons, not_or] at h
    rcases List.infix_cons_iff.mp hoccurs with hstart | hoccurs
    · exact absurd (List.cons_prefix_cons.mp hstart).1 h.1
    · exact ih h.2 hoccurs

theorem not_infix_of_not_mem {l : List α} (h : first ∉ l) : ¬ first :: rest <:+: l :=
  fun hoccurs => h (hoccurs.subset List.mem_cons_self)

/-- A delimiter is nowhere on both sides of what is not in it. -/
theorem infix_append_cons_iff {delimiter before after : List α} {mark : α}
    (hmark : mark ∉ delimiter) :
    delimiter <:+: before ++ mark :: after ↔ delimiter <:+: before ∨ delimiter <:+: after := by
  constructor
  · rintro ⟨front, back, h⟩
    rcases List.append_eq_append_iff.mp h with ⟨middle, rfl, -⟩ | ⟨middle, hmiddle, h⟩
    · exact Or.inl ⟨front, middle, rfl⟩
    · cases middle with
      | nil =>
        rw [List.append_nil] at hmiddle
        exact Or.inl ⟨front, [], by simp [hmiddle]⟩
      | cons a middle =>
        obtain ⟨rfl, rfl⟩ := List.cons.inj h
        -- The mark comes before the delimiter, for it is not in it.
        rcases List.append_eq_append_iff.mp hmiddle with ⟨extra, -, hdelimiter⟩ | ⟨extra, -, hextra⟩
        · exact absurd (by simp [hdelimiter]) hmark
        · cases extra with
          | nil =>
            rw [List.nil_append] at hextra
            exact absurd (hextra ▸ List.mem_cons_self) hmark
          | cons b extra =>
            obtain ⟨-, rfl⟩ := List.cons.inj hextra
            exact Or.inr ⟨extra, back, rfl⟩
  · rintro (h | h)
    · exact h.trans (List.prefix_append _ _).isInfix
    · exact h.trans ((List.suffix_cons mark after).trans (List.suffix_append _ _)).isInfix

/-- A delimiter does not begin in a piece without it that a delimiter follows. -/
theorem length_le_of_append_eq (hfresh : first ∉ rest) {before after front back : List α}
    (hbefore : ¬ first :: rest <:+: before)
    (h : before ++ first :: rest ++ after = front ++ first :: rest ++ back) :
    before.length ≤ front.length := by
  rw [List.append_assoc, List.append_assoc] at h
  rcases List.append_eq_append_iff.mp h with ⟨middle, rfl, -⟩ | ⟨middle, hmiddle, h⟩
  · simp
  · cases middle with
    | nil => simp [hmiddle]
    | cons a middle =>
      exfalso
      simp only [List.cons_append, List.cons.injEq] at h
      obtain ⟨rfl, h⟩ := h
      -- What follows the first element is behind or in front of the next delimiter.
      rcases List.append_eq_append_iff.mp h with ⟨extra, hextra, -⟩ | ⟨extra, hextra, h⟩
      · exact hbefore ⟨front, extra, by simp [hmiddle, hextra]⟩
      · cases extra with
        | nil =>
          rw [List.append_nil] at hextra
          exact hbefore ⟨front, [], by simp [hmiddle, hextra]⟩
        | cons b extra =>
          obtain ⟨rfl, -⟩ := List.cons.inj h
          exact hfresh (by simp [hextra])

/-- What goes on from a delimiter is found behind a piece without it. -/
theorem infix_of_infix_append_delimiter (hfresh : first ∉ rest) {before after more : List α}
    (hbefore : ¬ first :: rest <:+: before)
    (h : first :: rest ++ more <:+: before ++ (first :: rest ++ after)) :
    first :: rest ++ more <:+: first :: rest ++ after := by
  obtain ⟨front, back, h⟩ := h
  have hfront : before ++ first :: rest ++ after = front ++ first :: rest ++ (more ++ back) := by
    simpa using h.symm
  have hlength := length_le_of_append_eq hfresh hbefore hfront
  rw [List.append_assoc, List.append_assoc] at hfront
  obtain ⟨middle, rfl⟩ : before <+: front :=
    List.prefix_of_prefix_length_le (List.prefix_append before _)
      (hfront ▸ List.prefix_append front _) hlength
  rw [List.append_assoc] at hfront
  exact ⟨middle, back, by simpa using (List.append_cancel_left hfront).symm⟩

variable [DecidableEq α]

/-- The delimiter behind a piece without it is the first. -/
theorem dropInfix?_append (hfresh : first ∉ rest) {before : List α}
    (hbefore : ¬ first :: rest <:+: before) (after : List α) :
    (before ++ first :: rest ++ after).dropInfix? (first :: rest) = some (before, after) := by
  refine List.dropInfix?_eq_some_iff.mpr ⟨⟨_, rfl, BEq.rfl⟩, fun front found back h hfound => ?_⟩
  obtain rfl := eq_of_beq hfound
  exact length_le_of_append_eq hfresh hbefore h

theorem append_eq_of_dropInfix? {delimiter l before after : List α}
    (h : l.dropInfix? delimiter = some (before, after)) : l = before ++ delimiter ++ after := by
  obtain ⟨⟨found, hl, hfound⟩, -⟩ := List.dropInfix?_eq_some_iff.mp h
  rw [hl, eq_of_beq hfound]

/-- What stands in front of the first delimiter is without it. -/
theorem not_infix_of_dropInfix? {l before after : List α}
    (h : l.dropInfix? (first :: rest) = some (before, after)) : ¬ first :: rest <:+: before := by
  rintro ⟨front, back, rfl⟩
  obtain ⟨-, hfirst⟩ := List.dropInfix?_eq_some_iff.mp h
  have hlength := hfirst front (first :: rest) (back ++ first :: rest ++ after)
    (by rw [append_eq_of_dropInfix? h]; simp) BEq.rfl
  simp only [List.length_append, List.length_cons] at hlength
  omega

/-- A delimiter that occurs is found. -/
theorem exists_dropInfix? (hfresh : first ∉ rest) {l : List α} (h : first :: rest <:+: l) :
    ∃ split, l.dropInfix? (first :: rest) = some split := by
  obtain ⟨front, back, rfl⟩ := h
  -- On what stands in front of an occurrence; if there is another in it, that one is earlier.
  induction hlength : front.length using Nat.strongRecOn generalizing front back with
  | ind n ih =>
    by_cases hfront : first :: rest <:+: front
    · obtain ⟨earlier, between, rfl⟩ := hfront
      have hshorter : earlier.length < n := by
        rw [← hlength]
        simp only [List.length_append, List.length_cons]
        omega
      have hsplit := ih _ hshorter earlier (between ++ first :: rest ++ back) rfl
      simpa using hsplit
    · exact ⟨_, dropInfix?_append hfresh hfront back⟩

/-- What is left behind a delimiter is shorter. -/
theorem length_lt_of_dropInfix? {l before after : List α}
    (h : l.dropInfix? (first :: rest) = some (before, after)) : after.length < l.length := by
  rw [append_eq_of_dropInfix? h]
  simp
  omega

/-- The pieces of a list between the occurrences of a delimiter; there is always at least
one. -/
def pieces (first : α) (rest : List α) (l : List α) : List (List α) :=
  match _h : l.dropInfix? (first :: rest) with
  | none => [l]
  | some (piece, after) => piece :: pieces first rest after
termination_by l.length
decreasing_by exact length_lt_of_dropInfix? _h

theorem pieces_of_dropInfix?_eq_none {l : List α} (h : l.dropInfix? (first :: rest) = none) :
    pieces first rest l = [l] := by
  rw [pieces]
  split
  · rfl
  · rename_i hdrop
    rw [h] at hdrop
    cases hdrop

theorem pieces_of_dropInfix? {l before after : List α}
    (h : l.dropInfix? (first :: rest) = some (before, after)) :
    pieces first rest l = before :: pieces first rest after := by
  rw [pieces]
  split
  · rename_i hdrop
    rw [h] at hdrop
    cases hdrop
  · rename_i hdrop
    rw [h] at hdrop
    cases hdrop
    rfl

/-- A list without the delimiter is one piece. -/
theorem pieces_of_not_infix {l : List α} (h : ¬ first :: rest <:+: l) :
    pieces first rest l = [l] := by
  cases hdrop : l.dropInfix? (first :: rest) with
  | none => exact pieces_of_dropInfix?_eq_none hdrop
  | some split =>
    obtain ⟨before, after⟩ := split
    exact absurd ⟨before, after, (append_eq_of_dropInfix? hdrop).symm⟩ h

/-- **A piece in front of a delimiter is the first piece.** -/
theorem pieces_append (hfresh : first ∉ rest) {piece : List α}
    (hpiece : ¬ first :: rest <:+: piece) (after : List α) :
    pieces first rest (piece ++ first :: rest ++ after) = piece :: pieces first rest after :=
  pieces_of_dropInfix? (dropInfix?_append hfresh hpiece after)

theorem pieces_ne_nil (first : α) (rest l : List α) : pieces first rest l ≠ [] := by
  cases hdrop : l.dropInfix? (first :: rest) with
  | none => simp [pieces_of_dropInfix?_eq_none hdrop]
  | some split => simp [pieces_of_dropInfix? hdrop]

/-- **The pieces around a delimiter are those in front of it and those behind it.** -/
theorem pieces_append_pieces (hfresh : first ∉ rest) (before after : List α) :
    pieces first rest (before ++ first :: rest ++ after) =
      pieces first rest before ++ pieces first rest after := by
  induction before using pieces.induct first rest with
  | case1 before hdrop =>
    have hbefore : ¬ first :: rest <:+: before := by
      intro hoccurs
      obtain ⟨split, hsplit⟩ := exists_dropInfix? hfresh hoccurs
      rw [hdrop] at hsplit
      cases hsplit
    rw [pieces_append hfresh hbefore, pieces_of_not_infix hbefore]
    rfl
  | case2 before piece more hdrop ih =>
    have hall : before ++ first :: rest ++ after =
        piece ++ first :: rest ++ (more ++ first :: rest ++ after) := by
      rw [append_eq_of_dropInfix? hdrop]
      simp
    rw [hall, pieces_append hfresh (not_infix_of_dropInfix? hdrop), ih, pieces_of_dropInfix? hdrop]
    rfl

/-- The pieces with the delimiter between them are the list. -/
theorem eq_of_pieces {l piece : List α} {more : List (List α)}
    (h : pieces first rest l = piece :: more) :
    l = piece ++ more.flatMap (first :: rest ++ ·) := by
  induction l using pieces.induct first rest generalizing piece more with
  | case1 l hdrop =>
    rw [pieces_of_dropInfix?_eq_none hdrop] at h
    cases h
    exact (List.append_nil l).symm
  | case2 l front back hdrop ih =>
    rw [pieces_of_dropInfix? hdrop] at h
    obtain ⟨rfl, rfl⟩ := List.cons.inj h
    obtain ⟨next, others, hback⟩ := List.exists_cons_of_ne_nil (pieces_ne_nil first rest back)
    rw [hback, List.flatMap_cons, List.append_assoc _ next, ← ih hback]
    simpa using append_eq_of_dropInfix? hdrop

/-- A list is one piece exactly if the delimiter does not occur in it. -/
theorem length_pieces_eq_one_iff (hfresh : first ∉ rest) {l : List α} :
    (pieces first rest l).length = 1 ↔ ¬ first :: rest <:+: l := by
  constructor
  · rintro hlength ⟨before, after, rfl⟩
    have hbefore := List.length_pos_of_ne_nil (pieces_ne_nil first rest before)
    have hafter := List.length_pos_of_ne_nil (pieces_ne_nil first rest after)
    rw [pieces_append_pieces hfresh, List.length_append] at hlength
    omega
  · intro h
    have hone : pieces first rest l = [l] := pieces_of_not_infix h
    rw [hone]
    rfl

end Delimited
end OutboundHttp
