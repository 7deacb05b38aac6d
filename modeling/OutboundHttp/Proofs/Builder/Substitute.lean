import OutboundHttp.Builder.Operation
import OutboundHttp.Proofs.Text.Replace
import OutboundHttp.Proofs.Uri.Tail

/-!
# Tokens giving way to their values

What substitution leaves alone: a start of the text without an opening brace, an end
without a closing brace, and a character that no token holds, at which the text falls
apart into two that are dealt with on their own.
-/
namespace OutboundHttp
namespace Builder

open Text

variable {segments : List (Text × Text)}

/-- The segments belong to tokens in braces. -/
def AreKeyed (segments : List (Text × Text)) : Prop :=
  ∀ segment ∈ segments, ∃ token, segment.1 = segmentKey token

theorem areKeyed_cons {segment : Text × Text} :
    AreKeyed (segment :: segments) ↔ (∃ token, segment.1 = segmentKey token) ∧ AreKeyed segments :=
  List.forall_mem_cons

theorem segmentKey_eq (token : Text) : segmentKey token = ('{' :: token) ++ ['}'] := rfl

theorem substitute_cons (segment : Text × Text) (text : Text) :
    substitute (segment :: segments) text =
      substitute segments (replaceAll segment.1 segment.2 text) := rfl

@[simp] theorem substitute_empty : substitute segments [] = [] := by
  induction segments with
  | nil => rfl
  | cons segment segments ih => exact ih

theorem mem_substitute {c : Char} {text : Text} (h : c ∈ substitute segments text) :
    c ∈ text ∨ ∃ segment ∈ segments, c ∈ segment.2 := by
  induction segments generalizing text with
  | nil => exact Or.inl h
  | cons segment segments ih =>
    rcases ih h with h | ⟨other, hother, h⟩
    · exact (mem_replaceAll h).imp id fun h => ⟨segment, List.mem_cons_self, h⟩
    · exact Or.inr ⟨other, List.mem_cons_of_mem _ hother, h⟩

/-- A start without an opening brace is left alone. -/
theorem substitute_append_left (hkeys : AreKeyed segments) {before : Text} (h : '{' ∉ before)
    (text : Text) : substitute segments (before ++ text) = before ++ substitute segments text := by
  induction segments generalizing text with
  | nil => rfl
  | cons segment segments ih =>
    obtain ⟨⟨token, htoken⟩, hkeys⟩ := areKeyed_cons.mp hkeys
    rw [substitute_cons, substitute_cons, htoken, segmentKey, replaceAll_append_left h, ih hkeys]

/-- An end without a closing brace is left alone. -/
theorem substitute_append_right (hkeys : AreKeyed segments) {after : Text} (h : '}' ∉ after)
    (text : Text) : substitute segments (text ++ after) = substitute segments text ++ after := by
  induction segments generalizing text with
  | nil => rfl
  | cons segment segments ih =>
    obtain ⟨⟨token, htoken⟩, hkeys⟩ := areKeyed_cons.mp hkeys
    rw [substitute_cons, substitute_cons, htoken, segmentKey_eq, replaceAll_append_right h, ih hkeys]

/-- A character that no token holds keeps the two sides apart. -/
theorem substitute_separated (hkeys : AreKeyed segments) {c : Char}
    (hc : ∀ segment ∈ segments, c ∉ segment.1) (before after : Text) :
    substitute segments (before ++ c :: after) =
      substitute segments before ++ c :: substitute segments after := by
  induction segments generalizing before after with
  | nil => rfl
  | cons segment segments ih =>
    obtain ⟨⟨token, htoken⟩, hkeys⟩ := areKeyed_cons.mp hkeys
    obtain ⟨hfirst, hc⟩ := List.forall_mem_cons.mp hc
    have hne : segment.1 ≠ [] := by
      rw [htoken]
      exact List.cons_ne_nil _ _
    rw [substitute_cons, substitute_cons, substitute_cons, replaceAll_separated hne hfirst,
      ih hkeys hc]

open Uri

theorem isTail_substitute (hkeys : AreKeyed segments) {tail : Text} (h : IsTail tail) :
    IsTail (substitute segments tail) := by
  cases tail with
  | nil =>
    rw [substitute_empty]
    exact isTail_nil
  | cons c rest =>
    have hmark := isTail_cons.mp h
    have hbrace : '{' ∉ [c] := by
      rcases hmark with rfl | rfl | rfl <;> decide
    rw [← List.singleton_append, substitute_append_left hkeys hbrace]
    exact isTail_cons.mpr hmark

theorem isRooted_substitute (hkeys : AreKeyed segments) {path : Text} (h : IsRooted path) :
    IsRooted (substitute segments path) := by
  cases path with
  | nil => exact Or.inl substitute_empty
  | cons c rest =>
    rcases h with h | h
    · cases h
    · obtain rfl : c = '/' := Option.some.inj h
      have hbrace : '{' ∉ ['/'] := by decide
      rw [← List.singleton_append, substitute_append_left hkeys hbrace]
      exact Or.inr rfl

theorem noBreak_substitute {text : Text} (h : NoBreak text)
    (hvalues : ∀ segment ∈ segments, NoBreak segment.2) : NoBreak (substitute segments text) := by
  rw [noBreak_iff] at *
  intro c hc
  rcases mem_substitute hc with hc | ⟨segment, hsegment, hc⟩
  · exact h c hc
  · exact noBreak_iff.mp (hvalues segment hsegment) c hc

theorem isPlain_substitute {text : Text} (h : IsPlain text)
    (hvalues : ∀ segment ∈ segments, IsPlain segment.2) : IsPlain (substitute segments text) := by
  intro c hc
  rcases mem_substitute hc with hc | ⟨segment, hsegment, hc⟩
  · exact h c hc
  · exact hvalues segment hsegment c hc

end Builder
end OutboundHttp
