import OutboundHttp.Proofs.Builder.Fill
import OutboundHttp.Proofs.Builder.Run
import OutboundHttp.Proofs.Data.SortedMap
import OutboundHttp.Proofs.Uri.Parse

/-!
# The order of segments

Segments are substituted in the order of their tokens.  Since substitution fills the
slots of the url in one pass, any other order comes to the same, and whether a token has a
slot can be seen in the url before anything is put into it (`filled_of_made`).
-/
namespace OutboundHttp

namespace Builder

open Text

variable {b : Builder} {ops : List Operation} {segments : List (Text × Text)} {text : Text}

/-- Only the value of each token matters for what a slot is filled with. -/
theorem fill_congr {order : List (Text × Text)} (horder : AreBraceless order)
    (hsegments : AreBraceless segments)
    (hlookup : ∀ key, order.lookup key = segments.lookup key) (h : Slotted text) :
    fill order text = fill segments text := by
  induction h with
  | last hbefore hopened =>
    simp only [fill_append_left, fill_of_not_mem, horder, hsegments, hbefore, hopened,
      not_false_eq_true]
  | slot hbefore htoken _ ih =>
    rw [fill_append_left horder hbefore, fill_append_left hsegments hbefore,
      fill_segmentKey_append horder htoken, fill_segmentKey_append hsegments htoken, hlookup, ih]

/-! ## Slots that are still open -/

theorem occursIn_append_left {before : Text} (h : '{' ∉ before) (token text : Text) :
    occursIn (segmentKey token) (before ++ text) = occursIn (segmentKey token) text := by
  induction before with
  | nil => rfl
  | cons c before ih =>
    rw [List.mem_cons, not_or] at h
    have hstart : (segmentKey token).isPrefixOf (c :: (before ++ text)) = false := by
      simp [segmentKey, List.isPrefixOf, h.1]
    rw [List.cons_append, occursIn, hstart, ih h.2, Bool.false_or]

theorem occursIn_segmentKey_append {token other : Text} (htoken : IsBraceless token)
    (hother : IsBraceless other) (after : Text) :
    occursIn (segmentKey token) (segmentKey other ++ after) = true ↔
      token = other ∨ occursIn (segmentKey token) after = true := by
  have hrest : '{' ∉ other ++ ['}'] := by
    simp [hother.1]
  have hcons : segmentKey other ++ after = '{' :: (other ++ ['}'] ++ after) := rfl
  rw [hcons, occursIn, ← hcons, Bool.or_eq_true, List.isPrefixOf_iff_prefix,
    segmentKey_prefix_iff hother.2 htoken.2, occursIn_append_left hrest]

/-- The slots of a token without a value are still there when others have been filled, and
no new one comes up. -/
theorem occursIn_fill (hsegments : AreBraceless segments) {token : Text}
    (htoken : IsBraceless token) (hunset : segments.lookup (segmentKey token) = none)
    (h : Slotted text) :
    occursIn (segmentKey token) (fill segments text) = true ↔
      occursIn (segmentKey token) text = true := by
  induction h with
  | last hbefore hopened =>
    rw [fill_append_left hsegments hbefore, fill_of_not_mem hsegments hopened]
  | @slot before other after hbefore hother _ ih =>
    rw [fill_append_left hsegments hbefore, fill_segmentKey_append hsegments hother,
      occursIn_append_left hbefore, occursIn_append_left hbefore,
      occursIn_segmentKey_append htoken hother]
    rcases lookup_cases hsegments other with ⟨value, hvalue, hbraceless⟩ | hnone
    · have hne : token ≠ other := by
        rintro rfl
        rw [hunset] at hvalue
        cases hvalue
      rw [hvalue, Option.getD_some, occursIn_append_left hbraceless.1, ih]
      simp [hne]
    · rw [hnone, Option.getD_none, occursIn_segmentKey_append htoken hother, ih]

/-! ## The url -/

/-- The text of a url in which segments have been substituted. -/
theorem text_of_resolveUrl {url resolved : Uri} (hurl : b.assembledUrl = .ok url)
    (h : b.resolveUrl = .ok resolved) :
    resolved.text = substitute b.segments.entries url.text := by
  rw [resolveUrl, hurl, Result.ok_bind] at h
  split at h
  · rename_i hempty
    rw [← Result.pure_eq_ok_iff.mp h, List.isEmpty_iff.mp hempty]
    rfl
  · obtain ⟨-, -, -, rfl⟩ := Uri.parse_eq_ok_iff.mp h
    rfl

/-- A segment is checked against the url with the segments so far. -/
theorem setSegment_of_resolveUrl {resolved : Uri} (h : b.resolveUrl = .ok resolved)
    (token value : Text) :
    b.setSegment token value false =
      if occursIn (segmentKey token) resolved.text then
        .ok { b with segments := b.segments.insert (segmentKey token) value }
      else .error (.undefinedSegment token) := by
  show (HttpError.ofUri b.resolveUrl >>= fun url =>
    if !occursIn (segmentKey token) url.text then throw (.undefinedSegment token)
    else pure { b with segments := b.segments.insert (segmentKey token) value }) = _
  rw [h, Result.ofUri_ok, Result.ok_bind]
  cases occursIn (segmentKey token) resolved.text <;> rfl

/-- **Segments go into the url in one pass.**  If no slot of the url is nested, and no
token or value of a segment has a brace, then the url is read from the text with all slots
filled from left to right; substituting the segments in any order gives this text.  A
token without a value can be given one exactly if its slot is in the url without regard
to segments, whatever other segments have been set. -/
theorem filled_of_made (h : Made ops b) {url : Uri} (hurl : b.assembledUrl = .ok url)
    (hslots : Unnested url.text)
    (hbraces : ∀ token value, (segmentKey token, value) ∈ b.segments.entries →
      IsBraceless token ∧ IsBraceless value) :
    (b.segments.isEmpty = false →
        b.resolveUrl = Uri.parse (fill b.segments.entries url.text)) ∧
      (∀ resolved, b.resolveUrl = .ok resolved →
        resolved.text = fill b.segments.entries url.text) ∧
      (∀ order, order.Perm b.segments.entries →
        substitute order url.text = fill b.segments.entries url.text) ∧
      ∀ token value resolved, IsBraceless token → b.segments.get? (segmentKey token) = none →
        b.resolveUrl = .ok resolved →
          b.apply (.setSegment token value false) =
            if occursIn (segmentKey token) url.text then
              .ok { b with segments := b.segments.insert (segmentKey token) value }
            else .error (.undefinedSegment token) := by
  obtain ⟨base, hb⟩ := h.rooted
  have hslotted := hslots.slotted
  have hsegments : AreBraceless b.segments.entries := by
    rintro ⟨key, value⟩ hmem
    obtain ⟨token, rfl⟩ := hb.keys _ hmem
    obtain ⟨htoken, hvalue⟩ := hbraces token value hmem
    exact ⟨token, htoken, rfl, hvalue⟩
  have hfill := substitute_eq_fill hsegments hslotted
  have hlookup := b.segments.lookup_of_perm (List.Perm.refl _)
  refine ⟨fun hempty => ?_, fun resolved hresolved => ?_, fun order horder => ?_,
    fun token value resolved htoken hunset hresolved => ?_⟩
  · rw [resolveUrl, hurl, Result.ok_bind, hempty, hfill]
    rfl
  · rw [text_of_resolveUrl hurl hresolved, hfill]
  · have hbraceless : AreBraceless order := fun segment hmem =>
      hsegments segment (horder.mem_iff.mp hmem)
    rw [substitute_eq_fill hbraceless hslotted]
    refine fill_congr hbraceless hsegments (fun key => ?_) hslotted
    rw [b.segments.lookup_of_perm horder, hlookup]
  · rw [apply, setSegment_of_resolveUrl hresolved, text_of_resolveUrl hurl hresolved, hfill]
    simp only [occursIn_fill hsegments htoken ((hlookup _).trans hunset) hslotted]

/-- A slot is filled beside one that stays. -/
theorem filled_of_made_beside :
    ∃ b, Made [.resource "{a}{b}", .setSegment "a" "1" true] b ∧
      (∃ resolved, b.resolveUrl = .ok resolved ∧ resolved.text = "1{b}".toList) ∧
      (b.apply (.setSegment "b" "2" false)).toOption.isSome ∧
      (b.apply (.setSegment "c" "3" false)).toOption.isSome = false := by
  have hresource : Made [.resource "{a}{b}"]
      { base := { text := [] }, resource := "{a}{b}" } := (Made.ofUri _).apply rfl
  obtain ⟨b, hmade, hurl, hresolved, hentries⟩ :
      ∃ b, Made [.resource "{a}{b}", .setSegment "a" "1" true] b ∧
        b.assembledUrl = .ok { path := "{a}{b}", text := "{a}{b}" } ∧
        b.resolveUrl = .ok { path := "1{b}", text := "1{b}" } ∧
        b.segments.entries = [(segmentKey "a", "1".toList)] :=
    ⟨_, hresource.apply rfl, by rfl, by rfl, rfl⟩
  have hbraces : ∀ token value, (segmentKey token, value) ∈ b.segments.entries →
      IsBraceless token ∧ IsBraceless value := by
    rw [hentries]
    intro token value hmem
    obtain ⟨hkey, rfl⟩ := Prod.mk.inj (List.mem_singleton.mp hmem)
    obtain rfl : token = "a".toList := List.append_cancel_right (List.cons.inj hkey).2
    decide
  obtain ⟨-, htext, -, hset⟩ := filled_of_made hmade hurl (by decide) hbraces
  have hb : b.segments.get? (segmentKey "b") = none := by rw [SortedMap.get?, hentries]; decide
  have hc : b.segments.get? (segmentKey "c") = none := by rw [SortedMap.get?, hentries]; decide
  refine ⟨b, hmade, ⟨_, hresolved, (htext _ hresolved).trans ?_⟩, ?_, ?_⟩
  · rw [hentries]
    rfl
  · rw [hset "b" "2" _ (by decide) hb hresolved]
    rfl
  · rw [hset "c" "3" _ (by decide) hc hresolved]
    rfl

end Builder
end OutboundHttp
