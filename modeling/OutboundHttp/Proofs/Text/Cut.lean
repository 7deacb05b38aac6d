import OutboundHttp.Text.Basic

/-!
# Cutting a text

A text is cut at the first occurrence of a separator, at all of them, or where a class of
characters ends.  The pieces put together again are the text, and a text that was put
together from pieces of the right kind is cut into these pieces (`cutFirst_append_cons`,
`splitOn_append_cons`, `takeWhile_append_of_stops`).
-/
namespace OutboundHttp
namespace Text

variable {sep : Char}

/-! ## At the first occurrence -/

theorem cutAt?_eq_none_iff {text : Text} : cutAt? sep text = none ↔ sep ∉ text := by
  induction text with
  | nil => simp [cutAt?]
  | cons c rest ih =>
    rw [cutAt?]
    split
    · simp_all
    · rename_i hne
      rw [Option.map_eq_none_iff, ih, List.mem_cons]
      simp [Ne.symm hne]

theorem cutAt?_append_cons {before : Text} (h : sep ∉ before) (after : Text) :
    cutAt? sep (before ++ sep :: after) = some (before, after) := by
  induction before with
  | nil => simp [cutAt?]
  | cons c rest ih =>
    rw [List.mem_cons, not_or] at h
    rw [List.cons_append, cutAt?, if_neg (Ne.symm h.1), ih h.2]
    rfl

theorem eq_append_cons_of_cutAt? {text before after : Text}
    (h : cutAt? sep text = some (before, after)) :
    sep ∉ before ∧ text = before ++ sep :: after := by
  induction text generalizing before with
  | nil => simp [cutAt?] at h
  | cons c rest ih =>
    rw [cutAt?] at h
    split at h
    · rename_i heq
      cases h
      exact ⟨List.not_mem_nil, by rw [heq]; rfl⟩
    · rename_i hne
      obtain ⟨⟨before', after'⟩, hrest, heq⟩ := Option.map_eq_some_iff.mp h
      cases heq
      obtain ⟨hmem, htext⟩ := ih hrest
      exact ⟨by simp [hmem, Ne.symm hne], by rw [htext]; rfl⟩

/-- What stands before the first occurrence of a separator, and what it introduces. -/
def cutFirst (sep : Char) (text : Text) : Text × Option Text :=
  match cutAt? sep text with
  | some (before, after) => (before, some after)
  | none => (text, none)

/-- A separator with what it introduces; the empty text if there is no such thing. -/
def introduced (sep : Char) : Option Text → Text
  | none => []
  | some text => sep :: text

theorem cutFirst_of_not_mem {text : Text} (h : sep ∉ text) : cutFirst sep text = (text, none) := by
  rw [cutFirst, cutAt?_eq_none_iff.mpr h]

theorem cutFirst_append_cons {before : Text} (h : sep ∉ before) (after : Text) :
    cutFirst sep (before ++ sep :: after) = (before, some after) := by
  rw [cutFirst, cutAt?_append_cons h]

@[simp] theorem cutFirst_cons_self (after : Text) : cutFirst sep (sep :: after) = ([], some after) :=
  cutFirst_append_cons List.not_mem_nil after

/-- The two ways in which a text is cut. -/
theorem cutFirst_cases (sep : Char) (text : Text) :
    (sep ∉ text ∧ cutFirst sep text = (text, none)) ∨
      ∃ before after, sep ∉ before ∧ text = before ++ sep :: after ∧
        cutFirst sep text = (before, some after) := by
  cases h : cutAt? sep text with
  | none =>
    have hmem := cutAt?_eq_none_iff.mp h
    exact Or.inl ⟨hmem, cutFirst_of_not_mem hmem⟩
  | some cut =>
    obtain ⟨before, after⟩ := cut
    obtain ⟨hmem, htext⟩ := eq_append_cons_of_cutAt? h
    exact Or.inr ⟨before, after, hmem, htext, by rw [htext, cutFirst_append_cons hmem]⟩

theorem not_mem_cutFirst (sep : Char) (text : Text) : sep ∉ (cutFirst sep text).1 := by
  rcases cutFirst_cases sep text with ⟨hmem, h⟩ | ⟨before, after, hmem, -, h⟩ <;>
    rw [h] <;> exact hmem

theorem cutFirst_append_introduced (sep : Char) (text : Text) :
    (cutFirst sep text).1 ++ introduced sep (cutFirst sep text).2 = text := by
  rcases cutFirst_cases sep text with ⟨-, h⟩ | ⟨before, after, -, htext, h⟩ <;> rw [h]
  · exact List.append_nil text
  · exact htext.symm

theorem cutFirst_append {before : Text} (h : sep ∉ before) (text : Text) :
    cutFirst sep (before ++ text) =
      (before ++ (cutFirst sep text).1, (cutFirst sep text).2) := by
  rcases cutFirst_cases sep text with ⟨hmem, hcut⟩ | ⟨front, after, hmem, htext, hcut⟩ <;> rw [hcut]
  · exact cutFirst_of_not_mem (by simp [h, hmem])
  · rw [htext, ← List.append_assoc]
    exact cutFirst_append_cons (by simp [h, hmem]) after

theorem cutFirst_append_introduced_eq {before : Text} (h : sep ∉ before) (after : Option Text) :
    cutFirst sep (before ++ introduced sep after) = (before, after) := by
  cases after with
  | none => rw [introduced, List.append_nil, cutFirst_of_not_mem h]
  | some after => exact cutFirst_append_cons h after

/-- A text before a separator, or one that ends, is what stands before the first occurrence. -/
theorem cutFirst_append_of_head {before rest : Text} (h : sep ∉ before)
    (hrest : rest = [] ∨ rest.head? = some sep) : (cutFirst sep (before ++ rest)).1 = before := by
  rcases hrest with rfl | hhead
  · rw [List.append_nil, cutFirst_of_not_mem h]
  · obtain ⟨after, rfl⟩ := List.head?_eq_some_iff.mp hhead
    rw [cutFirst_append_cons h]

/-! ## At the last occurrence -/

theorem beforeLast?_of_not_mem {text : Text} (h : sep ∉ text) : beforeLast? sep text = none := by
  induction text with
  | nil => rfl
  | cons c rest ih =>
    rw [List.mem_cons, not_or] at h
    rw [beforeLast?, ih h.2]
    exact if_neg (Ne.symm h.1)

theorem beforeLast?_append_cons {after : Text} (h : sep ∉ after) (before : Text) :
    beforeLast? sep (before ++ sep :: after) = some before := by
  induction before with
  | nil => rw [List.nil_append, beforeLast?, beforeLast?_of_not_mem h, if_pos rfl]
  | cons c before ih => rw [List.cons_append, beforeLast?, ih]

/-- A text is kept through the last occurrence of a character. -/
theorem trimEnd_append_cons {after : Text} (h : sep ∉ after) (before : Text) :
    trimEnd (· != sep) (before ++ sep :: after) = before ++ [sep] := by
  have hafter : ∀ c ∈ after.reverse, (c != sep) = true := by
    intro c hc
    rw [bne_iff_ne]
    exact fun heq => h (heq ▸ List.mem_reverse.mp hc)
  rw [trimEnd, List.reverse_append, List.reverse_cons, List.append_assoc,
    List.dropWhile_append_of_pos hafter]
  simp

theorem exists_last_of_mem {text : Text} (h : sep ∈ text) :
    ∃ before after, text = before ++ sep :: after ∧ sep ∉ after := by
  obtain ⟨after, before, htext, hafter⟩ := List.eq_append_cons_of_mem (List.mem_reverse.mpr h)
  refine ⟨before.reverse, after.reverse, ?_, by simpa using hafter⟩
  rw [← List.reverse_reverse text, htext]
  simp

/-- A text is told from what follows it by a separator that it does not hold. -/
theorem exists_of_append_cons_eq {pre before rest tail : Text} (h : sep ∉ pre)
    (heq : before ++ sep :: rest = pre ++ tail) :
    ∃ middle, before = pre ++ middle ∧ tail = middle ++ sep :: rest := by
  rcases List.append_eq_append_iff.mp heq with ⟨front, hpre, hrest⟩ | ⟨middle, hbefore, htail⟩
  · cases front with
    | nil => exact ⟨[], by simpa using hpre.symm, hrest.symm⟩
    | cons c front =>
      have hc : sep = c := (List.cons.inj hrest).1
      refine absurd ?_ h
      rw [hpre, hc]
      simp
  · exact ⟨middle, hbefore, htail⟩

/-! ## Where a class ends -/

/-- The text does not begin with a character of a class. -/
def Stops (cls : Char → Bool) (text : Text) : Prop :=
  ∀ c ∈ text.head?, cls c = false

@[simp] theorem stops_nil (cls : Char → Bool) : Stops cls [] := by
  simp [Stops]

@[simp] theorem stops_cons {cls : Char → Bool} {c : Char} {rest : Text} :
    Stops cls (c :: rest) ↔ cls c = false := by
  simp [Stops]

theorem Stops.append {cls : Char → Bool} {a b : Text} (ha : Stops cls a) (hb : Stops cls b) :
    Stops cls (a ++ b) := by
  cases a with
  | nil => exact hb
  | cons c a => exact stops_cons.mpr (stops_cons.mp ha)

theorem stops_of_forall {cls : Char → Bool} {text : Text} (h : ∀ c ∈ text, cls c = false) :
    Stops cls text :=
  fun c hc => h c (List.mem_of_mem_head? hc)

theorem stops_dropWhile (cls : Char → Bool) (text : Text) : Stops cls (text.dropWhile cls) := by
  induction text with
  | nil => exact stops_nil cls
  | cons c rest ih =>
    rw [List.dropWhile_cons]
    split
    · exact ih
    · simpa using ‹¬ cls c = true›

theorem takeWhile_append_of_stops {cls : Char → Bool} {run rest : Text} (hrun : ∀ c ∈ run, cls c)
    (hrest : Stops cls rest) : (run ++ rest).takeWhile cls = run := by
  rw [List.takeWhile_append_of_pos hrun]
  cases rest with
  | nil => simp
  | cons c rest => simp [stops_cons.mp hrest]

theorem dropWhile_append_of_stops {cls : Char → Bool} {run rest : Text} (hrun : ∀ c ∈ run, cls c)
    (hrest : Stops cls rest) : (run ++ rest).dropWhile cls = rest := by
  rw [List.dropWhile_append_of_pos hrun]
  cases rest with
  | nil => simp
  | cons c rest => simp [stops_cons.mp hrest]

/-- A text is a run of a class and what stops it. -/
theorem exists_run (cls : Char → Bool) (text : Text) :
    ∃ run rest, text = run ++ rest ∧ (∀ c ∈ run, cls c) ∧ Stops cls rest :=
  ⟨text.takeWhile cls, text.dropWhile cls, List.takeWhile_append_dropWhile.symm,
    fun _ hc => List.all_eq_true.mp List.all_takeWhile _ hc, stops_dropWhile cls text⟩

/-- At the end a run of the class is trimmed away, and no character of it is left there. -/
theorem exists_trimEnd (cls : Char → Bool) (text : Text) :
    ∃ run, text = trimEnd cls text ++ run ∧ (∀ c ∈ run, cls c) ∧
      ∀ c ∈ (trimEnd cls text).getLast?, cls c = false := by
  obtain ⟨run, rest, htext, hrun, hrest⟩ := exists_run cls text.reverse
  have htrim : trimEnd cls text = rest.reverse := by
    rw [trimEnd, htext, dropWhile_append_of_stops hrun hrest]
  refine ⟨run.reverse, ?_, fun c hc => hrun c (List.mem_reverse.mp hc), ?_⟩
  · rw [htrim, ← List.reverse_append, ← htext, List.reverse_reverse]
  · rw [htrim, List.getLast?_reverse]
    exact hrest

/-- A text is what is left of it between two runs of the class that are trimmed away; it does not
begin with the class unless all of it is gone. -/
theorem exists_trim (cls : Char → Bool) (text : Text) :
    ∃ front back, text = front ++ (trim cls text ++ back) ∧ (∀ c ∈ front, cls c) ∧
      (∀ c ∈ back, cls c) ∧ Stops cls (trim cls text ++ back) := by
  obtain ⟨front, rest, htext, hfront, hrest⟩ := exists_run cls text
  have hstart : trimStart cls text = rest := by
    rw [htext]
    exact dropWhile_append_of_stops hfront hrest
  obtain ⟨back, hback, hrun, -⟩ := exists_trimEnd cls rest
  have hwhole : trim cls text ++ back = rest := by rw [trim, hstart, ← hback]
  exact ⟨front, back, by rw [hwhole, htext], hfront, hrun, hwhole.symm ▸ hrest⟩

/-- Nothing is trimmed away from a text that holds no character of the class. -/
theorem trim_eq_self {cls : Char → Bool} {text : Text} (h : ∀ c ∈ text, cls c = false) :
    trim cls text = text := by
  obtain ⟨front, back, htext, hfront, hback, -⟩ := exists_trim cls text
  have hnil {run : Text} (hrun : ∀ c ∈ run, cls c = true) (hsub : run ⊆ text) : run = [] :=
    List.eq_nil_iff_forall_not_mem.mpr fun c hc =>
      Bool.false_ne_true ((h c (hsub hc)).symm.trans (hrun c hc))
  rw [hnil hfront fun c hc => htext ▸ by simp [hc], hnil hback fun c hc => htext ▸ by simp [hc],
    List.nil_append, List.append_nil] at htext
  exact htext.symm

/-- What stands in front of a character outside the class is not trimmed at the end. -/
theorem trimEnd_append_cons_of_stop {cls : Char → Bool} {c : Char} (hc : cls c = false)
    (before after : Text) :
    trimEnd cls (before ++ c :: after) = before ++ c :: trimEnd cls after := by
  have hreverse : (before ++ c :: after).reverse = after.reverse ++ c :: before.reverse := by simp
  rw [trimEnd, trimEnd, hreverse, List.dropWhile_append]
  split
  · rename_i hempty
    rw [List.isEmpty_iff.mp hempty, List.dropWhile_cons_of_neg (by simp [hc])]
    simp
  · simp

/-- A run of the class at the end is trimmed away with what is trimmed in front of it. -/
theorem trimEnd_append_run {cls : Char → Bool} {run : Text} (hrun : ∀ c ∈ run, cls c)
    (text : Text) : trimEnd cls (text ++ run) = trimEnd cls text := by
  rw [trimEnd, List.reverse_append,
    List.dropWhile_append_of_pos fun c hc => hrun c (List.mem_reverse.mp hc)]
  rfl

theorem trimEnd_trimEnd (cls : Char → Bool) (text : Text) :
    trimEnd cls (trimEnd cls text) = trimEnd cls text := by
  obtain ⟨run, htext, hrun, -⟩ := exists_trimEnd cls text
  rw [← trimEnd_append_run hrun (trimEnd cls text), ← htext]

/-! ## At every occurrence -/

theorem splitOn_ne_nil (sep : Char) (text : Text) : splitOn sep text ≠ [] := by
  cases text with
  | nil => simp [splitOn]
  | cons c rest =>
    rw [splitOn]
    split
    · simp
    · split <;> simp

theorem splitOn_of_not_mem {text : Text} (h : sep ∉ text) : splitOn sep text = [text] := by
  induction text with
  | nil => rfl
  | cons c rest ih =>
    rw [List.mem_cons, not_or] at h
    rw [splitOn, if_neg (Ne.symm h.1), ih h.2]

/-- Cutting goes on behind a separator as if nothing stood before it. -/
theorem splitOn_append_cons (before after : Text) :
    splitOn sep (before ++ sep :: after) = splitOn sep before ++ splitOn sep after := by
  induction before with
  | nil => simp [splitOn]
  | cons c rest ih =>
    rw [List.cons_append, splitOn, splitOn]
    split
    · rw [ih]
      rfl
    · rw [ih]
      cases hrest : splitOn sep rest with
      | nil => exact absurd hrest (splitOn_ne_nil sep rest)
      | cons piece pieces => rfl

/-- A text is taken piece by piece: it has no separator, or a piece stands in front of the first. -/
theorem splitOn_induction (sep : Char) {motive : Text → Prop}
    (whole : ∀ text, sep ∉ text → motive text)
    (cut : ∀ before after, sep ∉ before → motive after → motive (before ++ sep :: after))
    (text : Text) : motive text := by
  induction hlength : text.length using Nat.strongRecOn generalizing text with
  | ind n ih =>
    rcases cutFirst_cases sep text with ⟨hmem, -⟩ | ⟨before, after, hmem, rfl, -⟩
    · exact whole text hmem
    · refine cut before after hmem (ih after.length ?_ after rfl)
      simp only [List.length_append, List.length_cons] at hlength
      omega

theorem splitOn_append_cons_of_not_mem {before : Text} (h : sep ∉ before) (after : Text) :
    splitOn sep (before ++ sep :: after) = before :: splitOn sep after := by
  rw [splitOn_append_cons, splitOn_of_not_mem h, List.singleton_append]

theorem not_mem_of_mem_splitOn {piece : Text} (text : Text) (h : piece ∈ splitOn sep text) :
    sep ∉ piece := by
  induction text using splitOn_induction sep with
  | whole text hmem =>
    rw [splitOn_of_not_mem hmem, List.mem_singleton] at h
    rwa [h]
  | cut before after hmem ih =>
    rw [splitOn_append_cons_of_not_mem hmem] at h
    rcases List.mem_cons.mp h with rfl | h
    · exact hmem
    · exact ih h

/-- Pieces without the separator are found again when they are joined by it. -/
theorem splitOn_join {pieces : List Text} (hne : pieces ≠ []) (h : ∀ p ∈ pieces, sep ∉ p) :
    splitOn sep (join [sep] pieces) = pieces := by
  induction pieces with
  | nil => exact absurd rfl hne
  | cons piece pieces ih =>
    have hpiece := h piece List.mem_cons_self
    cases pieces with
    | nil => rw [join, splitOn_of_not_mem hpiece]
    | cons next pieces =>
      rw [join, List.append_assoc, List.singleton_append, splitOn_append_cons,
        splitOn_of_not_mem hpiece, ih (List.cons_ne_nil _ _) fun p hp => h p (List.mem_cons_of_mem _ hp)]
      rfl

end Text
end OutboundHttp
