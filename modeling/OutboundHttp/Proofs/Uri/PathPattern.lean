import OutboundHttp.Proofs.Pattern.Places
import OutboundHttp.Proofs.Uri.Reading

/-!
# The texts of the path pattern

The pattern of a path repeats names with slashes before them, and only its first name
may do without.  It is shown to take exactly the texts of `mem_pathPattern`: any text
but the empty one that holds no question mark, number sign or line break and begins
with a slash, unless it stands at the very start.
-/
namespace OutboundHttp
namespace Uri

open Pattern Text

variable {limit : Nat} {place after : Place Part}

theorem isPathChar_iff {c : Char} : isPathChar c = true ↔ c ≠ '/' ∧ IsPlain [c] := by
  simp [isPathChar, and_assoc]

theorem eq_slash_of_isPlain {c : Char} {rest : Text} (h : IsPlain (c :: rest))
    (hc : isPathChar c = false) : c = '/' := by
  by_cases hslash : c = '/'
  · exact hslash
  · rw [isPathChar_iff.mpr ⟨hslash, fun d hd => h d (by simp_all)⟩] at hc
    cases hc

theorem isPlain_of_slashes {s : Text} (h : ∀ c ∈ s, c = '/') : IsPlain s := by
  intro c hc
  rw [h c hc]
  decide

theorem isPlain_of_isPathChar {s : Text} (h : ∀ c ∈ s, isPathChar c) : IsPlain s :=
  isPlain_of_cls h (by decide)

/-- A name with the slashes before it. -/
def segmentPattern : Pattern Part :=
  both (either atStart (run 1 none (· == '/'))) (run 1 none isPathChar)

theorem pathPattern_eq : pathPattern =
    either (both (both segmentPattern (many segmentPattern)) (run 0 none (· == '/')))
      (run 1 none (· == '/')) := rfl

theorem mem_slashes {least : Nat} : after ∈ (run least none (· == '/')).placesFrom limit place ↔
    ∃ s, (∀ c ∈ s, c = '/') ∧ least ≤ s.length ∧ place.Over s after := by
  simp [mem_run]

theorem mem_segment : after ∈ segmentPattern.placesFrom limit place ↔
    ∃ s u, (∀ c ∈ s, c = '/') ∧ (s = [] → place.passed = 0) ∧ u ≠ [] ∧
      (∀ c ∈ u, isPathChar c) ∧ place.Over (s ++ u) after := by
  rw [segmentPattern, mem_both]
  simp only [mem_either, mem_atStart, mem_slashes]
  constructor
  · rintro ⟨mid, ⟨hstart, rfl⟩ | ⟨s, hs, hlength, hmid⟩, hafter⟩ <;>
      obtain ⟨u, hu, hulength, -, hafter⟩ := mem_run.mp hafter
    · exact ⟨[], u, by simp, fun _ => hstart, List.ne_nil_of_length_pos hulength, hu, hafter⟩
    · refine ⟨s, u, hs, ?_, List.ne_nil_of_length_pos hulength, hu, hmid.trans hafter⟩
      rintro rfl
      simp at hlength
  · rintro ⟨s, u, hs, hstart, hne, hu, hover⟩
    obtain ⟨mid, hmid, hafter⟩ := hover.split
    refine ⟨mid, ?_, mem_run.mpr ⟨u, hu, List.length_pos_iff.mpr hne, by simp, hafter⟩⟩
    by_cases hnil : s = []
    · subst hnil
      exact Or.inl ⟨hstart rfl, Place.Over.nil_iff.mp hmid⟩
    · exact Or.inr ⟨s, hs, List.length_pos_iff.mpr hnil, hmid⟩

/-! ## What a path takes -/

theorem isPlain_of_mem_segment (h : after ∈ segmentPattern.placesFrom limit place) :
    ∃ p, p ≠ [] ∧ IsPlain p ∧ (place.passed = 0 ∨ p.head? = some '/') ∧ place.Over p after := by
  obtain ⟨s, u, hs, hstart, hne, hu, hover⟩ := mem_segment.mp h
  refine ⟨s ++ u, by simp [hne], ?_, ?_, hover⟩
  · exact isPlain_append.mpr ⟨isPlain_of_slashes hs, isPlain_of_isPathChar hu⟩
  · cases s with
    | nil => exact Or.inl (hstart rfl)
    | cons c s => exact Or.inr (by simp [hs c List.mem_cons_self])

theorem isPlain_of_mem_repetitions {n : Nat}
    (h : after ∈ repetitions (segmentPattern.placesFrom limit) n place []) :
    ∃ p, IsPlain p ∧ place.Over p after := by
  refine of_mem_repetitions
    (R := fun place after => ∃ p, IsPlain p ∧ Place.Over place p after) ?_ ?_ h
  · exact fun place => ⟨[], isPlain_nil, Place.Over.nil_iff.mpr rfl⟩
  · rintro place mid hmid after ⟨p, hp, hafter⟩
    obtain ⟨q, -, hq, -, hover⟩ := isPlain_of_mem_segment hmid
    exact ⟨q ++ p, isPlain_append.mpr ⟨hq, hp⟩, hover.trans hafter⟩

theorem isPlain_of_mem_pathPattern (h : after ∈ pathPattern.placesFrom limit place) :
    ∃ p, p ≠ [] ∧ IsPlain p ∧ (place.passed = 0 ∨ p.head? = some '/') ∧ place.Over p after := by
  simp only [pathPattern_eq, mem_either, mem_both, mem_slashes] at h
  rcases h with ⟨mid, ⟨first, hfirst, hmid⟩, s, hs, -, hafter⟩ | ⟨s, hs, hlength, hafter⟩
  · obtain ⟨p, hne, hp, hhead, hover⟩ := isPlain_of_mem_segment hfirst
    obtain ⟨q, hq, hover'⟩ := isPlain_of_mem_repetitions hmid
    refine ⟨p ++ q ++ s, by simp [hne], by simp [hp, hq, isPlain_of_slashes hs], ?_,
      (hover.trans hover').trans hafter⟩
    rw [List.append_assoc, List.head?_append]
    exact hhead.imp_right fun h => by rw [h]; rfl
  · refine ⟨s, List.ne_nil_of_length_pos hlength, isPlain_of_slashes hs, Or.inr ?_, hafter⟩
    cases s with
    | nil => simp at hlength
    | cons c s => simp [hs c List.mem_cons_self]

/-! ## Every path is taken -/

/-- A path is made of slashes only, or begins with slashes and a name that ends where
the path ends or goes on with a slash. -/
theorem IsPlain.exists_segment {p : Text} (hp : IsPlain p) :
    (∀ c ∈ p, c = '/') ∨
      ∃ s u v, p = s ++ u ++ v ∧ (∀ c ∈ s, c = '/') ∧ (p.head? = some '/' → s ≠ []) ∧
        u ≠ [] ∧ (∀ c ∈ u, isPathChar c) ∧ IsPlain v ∧ IsRooted v := by
  obtain ⟨s, r, rfl, hs, hr⟩ := exists_run (· == '/') p
  simp only [beq_iff_eq] at hs
  cases r with
  | nil => exact Or.inl (by simpa using hs)
  | cons c r =>
    have hc : c ≠ '/' := by simpa using hr
    obtain ⟨u, v, hsplit, hu, hv⟩ := exists_run isPathChar (c :: r)
    rw [hsplit] at hp
    have hvtext : IsPlain v := (isPlain_append.mp (isPlain_append.mp hp).2).2
    refine Or.inr ⟨s, u, v, by rw [hsplit, List.append_assoc], hs, ?_, ?_, hu, hvtext, ?_⟩
    · rintro hhead rfl
      simp [hc] at hhead
    · rintro rfl
      rw [List.nil_append] at hsplit
      rw [List.nil_append] at hp
      rw [← hsplit] at hv hp
      exact hc (eq_slash_of_isPlain (isPlain_append.mp hp).2 (stops_cons.mp hv))
    · cases v with
      | nil => exact Or.inl rfl
      | cons d v =>
        exact Or.inr (by rw [eq_slash_of_isPlain hvtext (stops_cons.mp hv)]; rfl)

theorem exists_repetitions {n : Nat} {p : Text} (hp : IsPlain p) (hroot : IsRooted p)
    (hn : p.length ≤ n) (hover : place.Over p after) :
    ∃ mid ∈ repetitions (segmentPattern.placesFrom limit) n place [],
      ∃ s, (∀ c ∈ s, c = '/') ∧ mid.Over s after := by
  -- On the number of repetitions: each takes a name, so the length of the path bounds them.
  induction n generalizing p place with
  | zero =>
    obtain rfl := List.length_eq_zero_iff.mp (Nat.le_zero.mp hn)
    exact ⟨place, mem_repetitions_self, [], by simp, hover⟩
  | succ n ih =>
    rcases hp.exists_segment with hs | ⟨s, u, v, rfl, hs, hhead, hne, hu, hv, hvroot⟩
    · exact ⟨place, mem_repetitions_self, p, hs, hover⟩
    · obtain ⟨first, hfirst, hrest⟩ := hover.split
      have hsne : s ≠ [] := hhead (hroot.resolve_left (by simp [hne]))
      have hlength : v.length ≤ n := by
        have := List.length_pos_iff.mpr hne
        simp only [List.length_append] at hn
        omega
      obtain ⟨mid, hmid, hafter⟩ := ih hv hvroot hlength hrest
      refine ⟨mid, mem_repetitions_succ.mpr (Or.inl ⟨first, ?_, hmid⟩), hafter⟩
      exact mem_segment.mpr ⟨s, u, hs, fun h => absurd h hsne, hne, hu, hfirst⟩

theorem mem_pathPattern_of_isPlain {p : Text} (hne : p ≠ []) (hp : IsPlain p)
    (hstart : place.passed = 0 ∨ p.head? = some '/') (hlimit : p.length ≤ limit)
    (hover : place.Over p after) : after ∈ pathPattern.placesFrom limit place := by
  simp only [pathPattern_eq, mem_either, mem_both, mem_slashes]
  rcases hp.exists_segment with hs | ⟨s, u, v, rfl, hs, hhead, hune, hu, hv, hvroot⟩
  · exact Or.inr ⟨p, hs, List.length_pos_iff.mpr hne, hover⟩
  · left
    obtain ⟨first, hfirst, hrest⟩ := hover.split
    have hlength : v.length ≤ limit := by
      simp only [List.length_append] at hlimit
      omega
    obtain ⟨mid, hmid, t, ht, hafter⟩ := exists_repetitions hv hvroot hlength hrest
    refine ⟨mid, ⟨first, mem_segment.mpr ⟨s, u, hs, fun h => ?_, hune, hu, hfirst⟩, hmid⟩,
      t, ht, Nat.zero_le _, hafter⟩
    exact hstart.resolve_right fun h' => hhead h' h

/-- **The texts that a path takes.** -/
theorem mem_pathPattern (hlimit : place.rest.length ≤ limit) :
    after ∈ pathPattern.placesFrom limit place ↔
      ∃ p, p ≠ [] ∧ IsPlain p ∧ (place.passed = 0 ∨ p.head? = some '/') ∧ place.Over p after := by
  refine ⟨isPlain_of_mem_pathPattern, ?_⟩
  rintro ⟨p, hne, hp, hstart, hover⟩
  refine mem_pathPattern_of_isPlain hne hp hstart ?_ hover
  rw [hover.rest, List.length_append] at hlimit
  omega

end Uri
end OutboundHttp
