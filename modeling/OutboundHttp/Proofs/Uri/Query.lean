import OutboundHttp.Proofs.Text.Cut
import OutboundHttp.Proofs.Text.Percent
import OutboundHttp.Proofs.Uri.Reading
import OutboundHttp.Uri.Query

/-!
# Query parameters read and written

Parameters put at the end of a query are read from it as they were, whatever characters
they hold and whatever the query held before (`pairs_append`).
-/
namespace OutboundHttp
namespace Query

open Text

/-! ## What is written -/

/-- A character of written parameters. -/
def isParamChar (c : Char) : Bool :=
  Percent.isComponentChar c || c == '=' || c == '&'

theorem isParamChar_of_mem_pairText {c : Char} {key value : Text} (h : c ∈ pairText key value) :
    isParamChar c = true := by
  have hcomponent : Percent.isComponentChar c = true → isParamChar c = true := by
    intro hc
    simp [isParamChar, hc]
  rcases List.mem_append.mp h with h | h
  · exact hcomponent (Percent.isComponentChar_of_mem_escape h)
  · rcases List.mem_cons.mp h with rfl | h
    · decide
    · exact hcomponent (Percent.isComponentChar_of_mem_escape h)

theorem mem_push {c : Char} {query : Text} {pair : Text × Text} (h : c ∈ push query pair) :
    c ∈ query ∨ isParamChar c = true := by
  rcases List.mem_append.mp h with h | h
  · split at h
    · cases h
    · rcases List.mem_append.mp h with h | h
      · exact Or.inl h
      · rw [List.mem_singleton] at h
        subst h
        exact Or.inr (by decide)
  · exact Or.inr (isParamChar_of_mem_pairText h)

theorem mem_foldl_push {c : Char} {query : Text} {params : List (Text × Text)}
    (h : c ∈ params.foldl push query) : c ∈ query ∨ isParamChar c = true := by
  induction params generalizing query with
  | nil => exact Or.inl h
  | cons pair params ih =>
    rcases ih h with h | h
    · exact mem_push h
    · exact Or.inr h

/-- Parameters as they are written. -/
def paramsText (params : List (Text × Text)) : Text :=
  join ['&'] (params.map fun pair => pairText pair.1 pair.2)

theorem push_ne_nil (query : Text) (pair : Text × Text) : push query pair ≠ [] := by
  simp [push, pairText]

/-- Parameters are put behind a query with one separator, if there is a query. -/
theorem foldl_push_eq {params : List (Text × Text)} (hne : params ≠ []) (query : Text) :
    params.foldl push query = (if query = [] then [] else query ++ ['&']) ++ paramsText params := by
  induction params generalizing query with
  | nil => exact absurd rfl hne
  | cons pair params ih =>
    have hpush : push query pair =
        (if query = [] then [] else query ++ ['&']) ++ pairText pair.1 pair.2 := by
      cases query <;> rfl
    cases params with
    | nil => exact hpush
    | cons next params =>
      rw [List.foldl_cons, ih (List.cons_ne_nil _ _), if_neg (push_ne_nil query pair), hpush]
      simp [paramsText, join]

theorem equals_mem_paramsText {params : List (Text × Text)} (hne : params ≠ []) :
    '=' ∈ paramsText params := by
  cases params with
  | nil => exact absurd rfl hne
  | cons pair params => cases params <;> simp [paramsText, join, pairText]

theorem foldl_push_ne_nil {params : List (Text × Text)} (hne : params ≠ []) (query : Text) :
    params.foldl push query ≠ [] := by
  rw [foldl_push_eq hne]
  exact List.append_ne_nil_of_right_ne_nil _ (List.ne_nil_of_mem (equals_mem_paramsText hne))

theorem isParamChar_of_mem_paramsText {c : Char} {params : List (Text × Text)}
    (h : c ∈ paramsText params) : isParamChar c = true := by
  by_cases hne : params = []
  · rw [hne] at h
    cases h
  · have hpush : c ∈ params.foldl push [] := by
      rw [foldl_push_eq hne]
      exact h
    exact (mem_foldl_push hpush).resolve_left List.not_mem_nil

/-- What is put behind a query can be part of one. -/
theorem isQuery_of_mem {query text : Text} (h : Uri.IsQuery query)
    (hmem : ∀ c ∈ text, c ∈ query ∨ isParamChar c = true) : Uri.IsQuery text := by
  have hmark {c : Char} (hquery : c ∉ query) (hc : isParamChar c = false) : c ∉ text := by
    intro htext
    rcases hmem c htext with hin | hparam
    · exact hquery hin
    · rw [hc] at hparam
      cases hparam
  obtain ⟨hfragment, hreturn, hfeed⟩ := h
  exact ⟨hmark hfragment (by decide), hmark hreturn (by decide), hmark hfeed (by decide)⟩

theorem isQuery_foldl_push {query : Text} (h : Uri.IsQuery query) (params : List (Text × Text)) :
    Uri.IsQuery (params.foldl push query) :=
  isQuery_of_mem h fun _ => mem_foldl_push

/-! ## What is read -/

theorem not_mem_pairText (key value : Text) : '&' ∉ pairText key value := by
  have hkey := Percent.not_mem_escape (show Percent.isComponentChar '&' = false by decide) key
  have hvalue := Percent.not_mem_escape (show Percent.isComponentChar '&' = false by decide) value
  simp [pairText, hkey, hvalue]

/-- A pair is read as it was written. -/
theorem readPair_pairText (key value : Text) : readPair (pairText key value) = (key, value) := by
  have hkey := Percent.not_mem_escape (show Percent.isComponentChar '=' = false by decide) key
  rw [readPair, pairText, cutAt?_append_cons hkey]
  simp only [Percent.unescape_escape]

theorem map_readPair_splitOn_paramsText {params : List (Text × Text)} (hne : params ≠ []) :
    (splitOn '&' (paramsText params)).map readPair = params := by
  have hmarks : ∀ piece ∈ params.map fun pair => pairText pair.1 pair.2, '&' ∉ piece := by
    intro piece hpiece
    obtain ⟨pair, -, rfl⟩ := List.mem_map.mp hpiece
    exact not_mem_pairText pair.1 pair.2
  rw [paramsText, splitOn_join (by simpa using hne) hmarks, List.map_map]
  exact (List.map_congr_left fun pair _ => readPair_pairText pair.1 pair.2).trans (List.map_id' params)

/-- **Parameters are read as they were written.** -/
theorem pairs_paramsText (params : List (Text × Text)) : pairs (paramsText params) = params := by
  by_cases hne : params = []
  · rw [hne]
    rfl
  · rw [pairs, isBlank_eq_false_of_mem (equals_mem_paramsText hne) (by decide)]
    exact map_readPair_splitOn_paramsText hne

/-- Behind a separator they are read as they were written, too. -/
theorem pairs_append {params : List (Text × Text)} (hne : params ≠ []) (query : Text) :
    pairs (query ++ '&' :: paramsText params) = (splitOn '&' query).map readPair ++ params := by
  have hmem : '&' ∈ query ++ '&' :: paramsText params := by simp
  rw [pairs, isBlank_eq_false_of_mem hmem (by decide), splitOn_append_cons]
  simp [map_readPair_splitOn_paramsText hne]

/-- Parameters that are pushed onto a query are read behind those that it had; a blank
query had none, but counts as one when it is not empty. -/
theorem exists_pairs_foldl_push (query : Text) (params : List (Text × Text)) :
    ∃ before, pairs (params.foldl push query) = before ++ params ∧
      (query = [] ∨ isBlank query = false → before = pairs query) := by
  by_cases hne : params = []
  · exact ⟨pairs query, by simp [hne], fun _ => rfl⟩
  rw [foldl_push_eq hne]
  by_cases hempty : query = []
  · refine ⟨[], ?_, fun _ => by rw [hempty]; rfl⟩
    rw [if_pos hempty, List.nil_append, List.nil_append, pairs_paramsText]
  · refine ⟨(splitOn '&' query).map readPair, ?_, fun h => ?_⟩
    · rw [if_neg hempty, List.append_assoc, List.singleton_append, pairs_append hne]
    · rw [pairs, h.resolve_left hempty]
      rfl

end Query
end OutboundHttp
