import OutboundHttp.Proofs.Uri.Reading
import OutboundHttp.Uri.Paths

/-!
# Joined paths

A path put behind another holds the characters of the two and slashes, nothing else.  Three paths
are the same whichever two of them are joined first (`append_assoc`).
-/
namespace OutboundHttp
namespace Path

open Text

theorem mem_of_mem_trimStart {cls : Char → Bool} {c : Char} {text : Text}
    (h : c ∈ trimStart cls text) : c ∈ text :=
  (List.dropWhile_sublist cls).mem h

theorem mem_of_mem_trimEnd {cls : Char → Bool} {c : Char} {text : Text}
    (h : c ∈ trimEnd cls text) : c ∈ text :=
  List.mem_reverse.mp ((List.dropWhile_sublist cls).mem (List.mem_reverse.mp h))

theorem append_of_blank {relative : Text} (base : Text) (h : isBlank relative = true) :
    append base relative = base :=
  if_pos h

theorem append_of_blank_base {base relative : Text} (hbase : isBlank base = true)
    (h : isBlank relative = false) : append base relative = relative := by
  rw [append, h, hbase]
  rfl

theorem append_of_not_blank {base relative : Text} (hbase : isBlank base = false)
    (h : isBlank relative = false) :
    append base relative =
      trimEnd (· == '/') base ++ '/' :: trimStart (· == '/') relative := by
  rw [append, h, hbase]
  rfl

theorem mem_append {c : Char} {base relative : Text} (h : c ∈ append base relative) :
    c ∈ base ∨ c ∈ relative ∨ c = '/' := by
  unfold append at h
  split at h
  · exact Or.inl h
  · split at h
    · exact Or.inr (Or.inl h)
    · rcases List.mem_append.mp h with h | h
      · exact Or.inl (mem_of_mem_trimEnd h)
      · rcases List.mem_cons.mp h with h | h
        · exact Or.inr (Or.inr h)
        · exact Or.inr (Or.inl (mem_of_mem_trimStart h))

open Uri

theorem noBreak_append {base relative : Text} (hbase : NoBreak base) (hrelative : NoBreak relative) :
    NoBreak (append base relative) := by
  rw [noBreak_iff] at *
  intro c hc
  rcases mem_append hc with h | h | rfl
  · exact hbase c h
  · exact hrelative c h
  · decide

theorem isPlain_append {base relative : Text} (hbase : IsPlain base) (hrelative : IsPlain relative) :
    IsPlain (append base relative) := by
  intro c hc
  rcases mem_append hc with h | h | rfl
  · exact hbase c h
  · exact hrelative c h
  · decide

/-! ## A path without a slash in front -/

/-- Nothing but the end of such a path is trimmed away, with a slash put in front of it too. -/
theorem exists_trimEnd_of_not_isRooted {base : Text} (hroot : ¬ IsRooted base) :
    ∃ c rest, trimEnd (· == '/') base = c :: rest ∧ c ≠ '/' ∧
      trimEnd (· == '/') ('/' :: base) = '/' :: c :: rest := by
  cases base with
  | nil => exact absurd (Or.inl rfl) hroot
  | cons c base =>
    have hne : c ≠ '/' := fun heq => hroot (Or.inr (congrArg some heq))
    have hc : (c == '/') = false := beq_false_of_ne hne
    exact ⟨c, trimEnd (· == '/') base, @trimEnd_append_cons_of_stop (· == '/') c hc [] base, hne,
      @trimEnd_append_cons_of_stop (· == '/') c hc ['/'] base⟩

theorem append_slash_cons {base : Text} (hroot : ¬ IsRooted base) (hblank : isBlank base = false)
    (relative : Text) : append ('/' :: base) relative = '/' :: append base relative := by
  cases hrelative : isBlank relative with
  | true => rw [append_of_blank _ hrelative, append_of_blank _ hrelative]
  | false =>
    have hslash : isBlank ('/' :: base) = false :=
      isBlank_eq_false_of_mem List.mem_cons_self (by decide)
    obtain ⟨c, rest, halone, -, hbehind⟩ := exists_trimEnd_of_not_isRooted hroot
    rw [append_of_not_blank hslash hrelative, append_of_not_blank hblank hrelative, halone, hbehind]
    rfl

theorem not_isRooted_append {base : Text} (hroot : ¬ IsRooted base) (hblank : isBlank base = false)
    (relative : Text) : ¬ IsRooted (append base relative) := by
  cases hrelative : isBlank relative with
  | true => rwa [append_of_blank base hrelative]
  | false =>
    obtain ⟨c, rest, halone, hne, -⟩ := exists_trimEnd_of_not_isRooted hroot
    rw [append_of_not_blank hblank hrelative, halone]
    rintro (hnil | hhead)
    · cases hnil
    · exact hne (Option.some.inj hhead)

/-! ## Three paths -/

theorem isBlank_append {base relative : Text} (h : isBlank relative = false) :
    isBlank (append base relative) = false := by
  cases hbase : isBlank base with
  | true => rwa [append_of_blank_base hbase h]
  | false =>
    rw [append_of_not_blank hbase h]
    exact isBlank_eq_false_of_mem (List.mem_append_right _ List.mem_cons_self) (by decide)

/-- **A path in the middle** is trimmed at both ends, whichever end comes first.  One of slashes
only leaves nothing but the slash that joins the other two. -/
theorem trim_middle {front back : Text} (hfront : trimEnd (· == '/') front = front)
    (hback : Stops (· == '/') back) (middle : Text) :
    trimEnd (· == '/') (front ++ '/' :: trimStart (· == '/') middle) ++ '/' :: back =
      front ++ '/' :: trimStart (· == '/') (trimEnd (· == '/') middle ++ '/' :: back) := by
  obtain ⟨run, rest, rfl, hrun, hstop⟩ := exists_run (· == '/') middle
  have hstart : trimStart (· == '/') (run ++ rest) = rest := dropWhile_append_of_stops hrun hstop
  have hslash : ∀ c ∈ ['/'], (c == '/') = true := by simp
  rw [hstart]
  cases rest with
  | nil =>
    have hend : trimEnd (· == '/') (run ++ []) = [] := by
      rw [List.append_nil]
      exact trimEnd_append_run hrun []
    have hskip : trimStart (· == '/') (['/'] ++ back) = back :=
      dropWhile_append_of_stops hslash hback
    rw [hend, List.nil_append, trimEnd_append_run hslash front, hfront]
    exact congrArg (front ++ '/' :: ·) hskip.symm
  | cons c rest =>
    have hc : (c == '/') = false := by simpa using hstop
    have hend : trimEnd (· == '/') (run ++ c :: rest) = run ++ c :: trimEnd (· == '/') rest :=
      @trimEnd_append_cons_of_stop (· == '/') c hc run rest
    have hfirst : trimEnd (· == '/') (front ++ '/' :: c :: rest) =
        front ++ '/' :: c :: trimEnd (· == '/') rest := by
      have h := @trimEnd_append_cons_of_stop (· == '/') c hc (front ++ ['/']) rest
      simpa using h
    have hskip : trimStart (· == '/') (run ++ (c :: trimEnd (· == '/') rest ++ '/' :: back)) =
        c :: trimEnd (· == '/') rest ++ '/' :: back :=
      dropWhile_append_of_stops hrun (stops_cons.mpr hc)
    rw [hend, hfirst, List.append_assoc run, hskip]
    simp

/-- **Paths are joined in either order.** -/
theorem append_assoc (front middle back : Text) :
    append (append front middle) back = append front (append middle back) := by
  cases hback : isBlank back with
  | true => rw [append_of_blank _ hback, append_of_blank _ hback]
  | false =>
    cases hmiddle : isBlank middle with
    | true => rw [append_of_blank front hmiddle, append_of_blank_base hmiddle hback]
    | false =>
      cases hfront : isBlank front with
      | true =>
        rw [append_of_blank_base hfront hmiddle,
          append_of_blank_base hfront (isBlank_append hback)]
      | false =>
        rw [append_of_not_blank (isBlank_append hmiddle) hback,
          append_of_not_blank hfront (isBlank_append hback),
          append_of_not_blank hfront hmiddle, append_of_not_blank hmiddle hback]
        exact trim_middle (trimEnd_trimEnd _ front) (stops_dropWhile _ back) middle

end Path
end OutboundHttp
