import OutboundHttp.Text.Basic

/-!
# Putting one piece in place of another

Replacing a piece throughout a text is local: what stands before the first character of
the piece can occur is kept as it is (`replaceAll_append_left`), and the two sides of a
place that no occurrence reaches across are dealt with apart (`replaceAll_append`).
-/
namespace OutboundHttp
namespace Text

variable {piece value : Text}

theorem mem_replaceFrom {c : Char} {skip : Nat} {text : Text}
    (h : c ∈ replaceFrom piece value skip text) : c ∈ text ∨ c ∈ value := by
  induction text generalizing skip with
  | nil => cases skip <;> simp [replaceFrom] at h
  | cons d rest ih =>
    cases skip with
    | succ skip =>
      rw [replaceFrom] at h
      exact (ih h).imp_left (List.mem_cons_of_mem d)
    | zero =>
      rw [replaceFrom] at h
      split at h
      · rcases List.mem_append.mp h with h | h
        · exact Or.inr h
        · exact (ih h).imp_left (List.mem_cons_of_mem d)
      · rcases List.mem_cons.mp h with rfl | h
        · exact Or.inl List.mem_cons_self
        · exact (ih h).imp_left (List.mem_cons_of_mem d)

/-- Only characters of the text and of the value occur after a replacement. -/
theorem mem_replaceAll {c : Char} {text : Text} (h : c ∈ replaceAll piece value text) :
    c ∈ text ∨ c ∈ value :=
  mem_replaceFrom h

theorem replaceAll_cons_of_no_match {c : Char} {rest : Text}
    (h : piece.isPrefixOf (c :: rest) = false) :
    replaceAll piece value (c :: rest) = c :: replaceAll piece value rest := by
  rw [replaceAll, replaceFrom, h]
  rfl

/-- A text without the first character of the piece is kept. -/
theorem replaceAll_append_left {c : Char} {before : Text} (h : c ∉ before) (rest text : Text) :
    replaceAll (c :: rest) value (before ++ text) = before ++ replaceAll (c :: rest) value text := by
  induction before with
  | nil => rfl
  | cons d before ih =>
    rw [List.mem_cons, not_or] at h
    have hprefix : (c :: rest).isPrefixOf (d :: (before ++ text)) = false := by
      simp [List.isPrefixOf, h.1]
    rw [List.cons_append, replaceAll_cons_of_no_match hprefix, ih h.2]
    rfl

/-- No occurrence of a piece that begins before a text ends in it. -/
def Apart (piece text : Text) : Prop :=
  ∀ before, piece <+: before ++ text → piece <+: before

theorem replaceFrom_append {after : Text} (h : Apart piece after) {skip : Nat} {before : Text}
    (hskip : skip ≤ before.length) :
    replaceFrom piece value skip (before ++ after) =
      replaceFrom piece value skip before ++ replaceAll piece value after := by
  -- On the text before; `skip` stays within it, since an occurrence that begins in it also
  -- ends in it.
  induction before generalizing skip with
  | nil =>
    rw [Nat.le_zero.mp hskip]
    rfl
  | cons c before ih =>
    cases skip with
    | succ skip =>
      rw [List.cons_append, replaceFrom, replaceFrom]
      exact ih (Nat.le_of_succ_le_succ hskip)
    | zero =>
      rw [List.cons_append, replaceFrom, replaceFrom]
      by_cases hpiece : piece <+: c :: before
      · have hall : piece.isPrefixOf (c :: (before ++ after)) = true :=
          List.isPrefixOf_iff_prefix.mpr (hpiece.trans (List.prefix_append (c :: before) after))
        have hlength := hpiece.length_le
        rw [if_pos hall, if_pos (List.isPrefixOf_iff_prefix.mpr hpiece),
          ih (by simp only [List.length_cons] at hlength; omega), List.append_assoc]
      · have hall : ¬ piece.isPrefixOf (c :: (before ++ after)) = true :=
          fun hall => hpiece (h (c :: before) (List.isPrefixOf_iff_prefix.mp hall))
        rw [if_neg hall, if_neg fun hc => hpiece (List.isPrefixOf_iff_prefix.mp hc),
          ih (Nat.zero_le _), List.cons_append]

/-- **The two sides of a place that no occurrence reaches across** are replaced apart. -/
theorem replaceAll_append {after : Text} (h : Apart piece after) (before : Text) :
    replaceAll piece value (before ++ after) =
      replaceAll piece value before ++ replaceAll piece value after :=
  replaceFrom_append h (Nat.zero_le _)

/-- What lies behind the start of an occurrence that reaches into a text. -/
theorem prefix_append_cases {before after : Text} (h : piece <+: before ++ after) :
    piece <+: before ∨ ∃ rest, rest ≠ [] ∧ piece = before ++ rest ∧ rest <+: after := by
  obtain ⟨tail, htail⟩ := h
  rcases List.append_eq_append_iff.mp htail with ⟨rest, hbefore, -⟩ | ⟨rest, hpiece, hafter⟩
  · exact Or.inl ⟨rest, hbefore.symm⟩
  · by_cases hnil : rest = []
    · rw [hnil, List.append_nil] at hpiece
      exact Or.inl (hpiece ▸ List.prefix_rfl)
    · exact Or.inr ⟨rest, hnil, hpiece, tail, hafter.symm⟩

/-- A text without the last character of a piece is apart from it. -/
theorem apart_of_last {c : Char} {start text : Text} (hc : c ∉ text) :
    Apart (start ++ [c]) text := by
  intro before h
  rcases prefix_append_cases h with h | ⟨rest, hne, hpiece, hrest⟩
  · exact h
  · exfalso
    have hlast : rest.getLast hne = c := by
      have := congrArg List.getLast? hpiece
      rw [List.getLast?_concat, List.getLast?_append, List.getLast?_eq_some_getLast hne] at this
      exact (Option.some.inj this).symm
    exact hc (hrest.subset (hlast ▸ List.getLast_mem hne))

/-- A text that begins with a character foreign to a piece is apart from it. -/
theorem apart_of_head {c : Char} (hc : c ∉ piece) (text : Text) : Apart piece (c :: text) := by
  intro before h
  rcases prefix_append_cases h with h | ⟨rest, hne, hpiece, hrest⟩
  · exact h
  · exfalso
    cases rest with
    | nil => exact hne rfl
    | cons d rest =>
      obtain ⟨rfl, -⟩ := List.cons_prefix_cons.mp hrest
      exact hc (by simp [hpiece])

theorem replaceAll_of_not_mem {c : Char} {start text : Text} (hc : c ∉ text) :
    replaceAll (start ++ [c]) value text = text := by
  induction text with
  | nil => rfl
  | cons d rest ih =>
    have hprefix : (start ++ [c]).isPrefixOf (d :: rest) = false := by
      rw [Bool.eq_false_iff]
      intro h
      exact hc ((List.isPrefixOf_iff_prefix.mp h).subset (by simp))
    rw [replaceAll_cons_of_no_match hprefix, ih fun h => hc (List.mem_cons_of_mem d h)]

/-- A text without the last character of the piece is kept at the end. -/
theorem replaceAll_append_right {c : Char} {start after : Text} (hc : c ∉ after) (before : Text) :
    replaceAll (start ++ [c]) value (before ++ after) =
      replaceAll (start ++ [c]) value before ++ after := by
  rw [replaceAll_append (apart_of_last hc), replaceAll_of_not_mem hc]

/-- A character foreign to the piece separates what stands before and behind it. -/
theorem replaceAll_separated {c : Char} (hne : piece ≠ []) (hc : c ∉ piece) (before after : Text) :
    replaceAll piece value (before ++ c :: after) =
      replaceAll piece value before ++ c :: replaceAll piece value after := by
  have hprefix : piece.isPrefixOf (c :: after) = false := by
    cases piece with
    | nil => exact absurd rfl hne
    | cons d rest =>
      have hd : (d == c) = false := beq_eq_false_iff_ne.mpr fun h => hc (h ▸ List.mem_cons_self)
      simp [List.isPrefixOf, hd]
  rw [replaceAll_append (apart_of_head hc after), replaceAll_cons_of_no_match hprefix]

end Text
end OutboundHttp
