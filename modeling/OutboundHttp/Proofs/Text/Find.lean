import OutboundHttp.Proofs.Text.Replace

/-!
# Finding a piece

A text is searched for the first occurrence of a piece, in its own case or in lower case
(`behind?`).  A character that is not in the piece divides the search: what stands in front of it
is searched first, and what stands behind it only if nothing was found (`behind?_append_cons`).
-/
namespace OutboundHttp
namespace Text

variable {piece text rest : Text} {sep : Char}

/-! ## In its own case -/

theorem isSome_after? (piece text : Text) : (after? piece text).isSome = occursIn piece text := by
  induction text with
  | nil => cases piece <;> rfl
  | cons c text ih =>
    rw [after?, occursIn]
    split
    · rename_i hbegins
      rw [hbegins]
      rfl
    · rename_i hbegins
      rw [ih, Bool.eq_false_iff.mpr hbegins]
      rfl

theorem length_le_of_after? (h : after? piece text = some rest) : rest.length ≤ text.length := by
  induction text with
  | nil =>
    rw [after?] at h
    split at h <;> cases h
    exact Nat.le_refl 0
  | cons c text ih =>
    rw [after?] at h
    split at h
    · cases h
      simp only [List.length_drop]
      omega
    · exact Nat.le_succ_of_le (ih h)

/-- Nothing is found where the first character of the piece is missing. -/
theorem after?_append_left {c : Char} {before : Text} (h : c ∉ before) (text : Text) :
    after? (c :: piece) (before ++ text) = after? (c :: piece) text := by
  induction before with
  | nil => rfl
  | cons d before ih =>
    rw [List.mem_cons, not_or] at h
    have hbegins : ¬ (c :: piece).isPrefixOf (d :: (before ++ text)) = true := by
      simp [List.isPrefixOf, h.1]
    rw [List.cons_append, after?, if_neg hbegins, ih h.2]

theorem after?_append_self (hne : piece ≠ []) (rest : Text) :
    after? piece (piece ++ rest) = some rest := by
  obtain ⟨c, piece, rfl⟩ := List.exists_cons_of_ne_nil hne
  have hbegins : (c :: piece).isPrefixOf (c :: (piece ++ rest)) = true :=
    List.isPrefixOf_iff_prefix.mpr (List.prefix_append (c :: piece) rest)
  rw [List.cons_append, after?, if_pos hbegins]
  exact congrArg some List.drop_left

/-- A character that is not in the piece divides the search. -/
theorem after?_append_cons (hne : piece ≠ []) (hsep : sep ∉ piece) (before after : Text) :
    after? piece (before ++ sep :: after) =
      ((after? piece before).map (· ++ sep :: after)).or (after? piece after) := by
  induction before with
  | nil =>
    have hbegins : ¬ piece.isPrefixOf (sep :: after) = true := by
      intro h
      have hnil := List.prefix_nil.mp
        (apart_of_head hsep after [] (List.isPrefixOf_iff_prefix.mp h))
      exact hne hnil
    have hnone : after? piece [] = none := by
      rw [after?, if_neg]
      simpa using hne
    rw [List.nil_append, hnone, after?, if_neg hbegins]
    rfl
  | cons c before ih =>
    rw [List.cons_append, after?, after?]
    by_cases hpiece : piece <+: c :: before
    · have hall : piece <+: c :: (before ++ sep :: after) :=
        hpiece.trans (List.prefix_append (c :: before) (sep :: after))
      rw [if_pos (List.isPrefixOf_iff_prefix.mpr hall),
        if_pos (List.isPrefixOf_iff_prefix.mpr hpiece), ← List.cons_append,
        List.drop_append_of_le_length hpiece.length_le]
      rfl
    · have hall : ¬ piece <+: c :: (before ++ sep :: after) :=
        fun hall => hpiece (apart_of_head hsep after (c :: before) hall)
      rw [if_neg fun h => hall (List.isPrefixOf_iff_prefix.mp h),
        if_neg fun h => hpiece (List.isPrefixOf_iff_prefix.mp h), ih]

/-! ## In lower case -/

@[simp] theorem lowerAscii_append (a b : Text) :
    lowerAscii (a ++ b) = lowerAscii a ++ lowerAscii b :=
  List.map_append

@[simp] theorem lowerAscii_cons (c : Char) (text : Text) :
    lowerAscii (c :: text) = c.toLower :: lowerAscii text := rfl

@[simp] theorem length_lowerAscii (text : Text) : (lowerAscii text).length = text.length :=
  List.length_map _

/-- What follows the first occurrence of a piece, the letters of the text taken in lower case. -/
def behind? (piece text : Text) : Option Text :=
  (after? piece (lowerAscii text)).map fun rest => text.drop (text.length - rest.length)

theorem isSome_behind? (piece text : Text) :
    (behind? piece text).isSome = occursIn piece (lowerAscii text) := by
  rw [behind?, Option.isSome_map, isSome_after?]

theorem behind?_append_cons (hne : piece ≠ []) (hsep : sep ∉ piece) (hlower : sep.toLower = sep)
    (before after : Text) :
    behind? piece (before ++ sep :: after) =
      ((behind? piece before).map (· ++ sep :: after)).or (behind? piece after) := by
  have hcut := after?_append_cons hne hsep (lowerAscii before) (lowerAscii after)
  rw [behind?, behind?, behind?, lowerAscii_append, lowerAscii_cons, hlower, hcut]
  cases hfirst : after? piece (lowerAscii before) with
  | some found =>
    have hlength : (before ++ sep :: after).length - (found ++ sep :: lowerAscii after).length =
        before.length - found.length := by
      simp only [List.length_append, List.length_cons, length_lowerAscii]
      omega
    simp only [Option.map_some, Option.some_or, hlength]
    rw [List.drop_append_of_le_length (Nat.sub_le _ _)]
  | none =>
    cases hsecond : after? piece (lowerAscii after) with
    | none => rfl
    | some found =>
      have hfound := length_le_of_after? hsecond
      rw [length_lowerAscii] at hfound
      have hlength : (before ++ sep :: after).length - found.length =
          (before ++ [sep]).length + (after.length - found.length) := by
        simp only [List.length_append, List.length_cons, List.length_nil]
        omega
      have htext : before ++ sep :: after = (before ++ [sep]) ++ after := by simp
      simp only [Option.map_none, Option.none_or, Option.map_some, hlength]
      rw [htext, List.drop_length_add_append]

/-- The first occurrence is found if the first character of the piece does not come before it. -/
theorem behind?_append_append {c : Char} {before found : Text} (hbefore : c ∉ lowerAscii before)
    (hfound : lowerAscii found = c :: piece) (rest : Text) :
    behind? (c :: piece) (before ++ (found ++ rest)) = some rest := by
  have hafter : after? (c :: piece) (lowerAscii (before ++ (found ++ rest))) =
      some (lowerAscii rest) := by
    rw [lowerAscii_append, lowerAscii_append, hfound, after?_append_left hbefore,
      after?_append_self (List.cons_ne_nil c piece)]
  have hlength : (before ++ (found ++ rest)).length - (lowerAscii rest).length =
      (before ++ found).length := by
    simp only [List.length_append, length_lowerAscii]
    omega
  rw [behind?, hafter, Option.map_some, hlength, ← List.append_assoc, List.drop_left]

end Text
end OutboundHttp
