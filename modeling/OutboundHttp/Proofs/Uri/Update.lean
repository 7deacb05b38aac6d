import OutboundHttp.Proofs.Uri.Compose
import OutboundHttp.Proofs.Uri.Query

/-!
# Uris with another query

The query of a uri can be replaced whatever its other parts are (`setQuery_of_parse`): it is
set off by its question mark, also where there is no host or nothing but a scheme in front of
it.  A parameter that is added is therefore read behind those that were there before
(`addQueryParam_of_parse`).
-/
namespace OutboundHttp

namespace Query

open Text

/-! ## Behind a query -/

/-- The query that further parameters are put behind; a blank one does not count. -/
def kept (query : Text) : Text :=
  if isBlank query then [] else query

theorem kept_cases (query : Text) :
    isBlank query = true ∧ kept query = [] ∨ isBlank query = false ∧ kept query = query := by
  cases h : isBlank query with
  | true => exact Or.inl ⟨rfl, if_pos h⟩
  | false => exact Or.inr ⟨rfl, if_neg (by rw [h]; decide)⟩

theorem isQuery_kept {query : Text} (h : Uri.IsQuery query) : Uri.IsQuery (kept query) := by
  rcases kept_cases query with ⟨-, hkept⟩ | ⟨-, hkept⟩ <;> rw [hkept]
  · exact ⟨List.not_mem_nil, Uri.noBreak_nil⟩
  · exact h

theorem isQuery_push_kept {query : Text} (h : Uri.IsQuery query) (pair : Text × Text) :
    Uri.IsQuery (push (kept query) pair) :=
  isQuery_foldl_push (isQuery_kept h) [pair]

/-- Behind the part of a query that counts, parameters are read behind those that it has. -/
theorem pairs_foldl_push_kept (query : Text) (params : List (Text × Text)) :
    pairs (params.foldl push (kept query)) = pairs query ++ params := by
  obtain ⟨before, hpairs, hbefore⟩ := exists_pairs_foldl_push (kept query) params
  rw [hpairs]
  rcases kept_cases query with ⟨hblank, hkept⟩ | ⟨hblank, hkept⟩
  · rw [hbefore (Or.inl hkept), hkept, pairs, pairs, hblank]
    rfl
  · rw [hbefore (Or.inr (by rw [hkept, hblank])), hkept]

theorem pairs_push_kept (query : Text) (pair : Text × Text) :
    pairs (push (kept query) pair) = pairs query ++ [pair] :=
  pairs_foldl_push_kept query [pair]

end Query

namespace Uri

open Text

variable {text : Text} {uri : Uri}

/-! ## Another query -/

/-- The uri with another query, and the text that this is written as. -/
def withQuery (uri : Uri) (query : Text) : Uri where
  toUriParts := { uri.toUriParts with query := query }
  text := UriParts.compose { uri.toUriParts with query := query }

/-- A uri with another query is read as such, so it can be given yet another. -/
theorem parse_withQuery (h : parse text = .ok uri) {query : Text} (hquery : IsQuery query) :
    parse (uri.withQuery query).text = .ok (uri.withQuery query) := by
  have hwell := wellFormed_of_parse h
  have hwith : UriParts.WellFormed { uri.toUriParts with query := query } :=
    ⟨hwell.scheme, hwell.host, hwell.port_of_host, hwell.path_isPlain, hwell.path_isRooted,
      hwell.path_of_scheme, hquery, hwell.fragment⟩
  exact parse_compose_of_front hwith (front_of_parse h)

theorem setQuery_eq_withQuery (h : parse text = .ok uri) {query : Text} (hquery : IsQuery query) :
    uri.setQuery query = .ok (uri.withQuery query) := by
  rw [setQuery, ofParts]
  exact parse_withQuery h hquery

/-- **Another query leaves all other parts alone.** -/
theorem setQuery_of_parse (h : parse text = .ok uri) {query : Text} (hquery : IsQuery query) :
    ∃ changed, uri.setQuery query = .ok changed ∧
      changed.toUriParts = { uri.toUriParts with query := query } :=
  ⟨uri.withQuery query, setQuery_eq_withQuery h hquery, rfl⟩

theorem addQueryParam_eq (uri : Uri) (key value : Text) :
    uri.addQueryParam key value = uri.setQuery (Query.push (Query.kept uri.query) (key, value)) := by
  rw [addQueryParam]
  rcases Query.kept_cases uri.query with ⟨hblank, hkept⟩ | ⟨hblank, hkept⟩
  · rw [hblank, hkept]
    rfl
  · have hne : uri.query.isEmpty = false :=
      List.isEmpty_eq_false_iff.mpr (ne_nil_of_isBlank_eq_false hblank)
    rw [hblank, hkept, Query.push, hne]
    simp

/-- **A parameter is added behind those that a uri has,** and nothing else changes. -/
theorem addQueryParam_of_parse (h : parse text = .ok uri) (key value : Text) :
    ∃ changed, uri.addQueryParam key value = .ok changed ∧
      changed.toUriParts = { uri.toUriParts with query := changed.query } ∧
      changed.queryParams = uri.queryParams ++ [(key, value)] := by
  have hquery := Query.isQuery_push_kept (wellFormed_of_parse h).query (key, value)
  obtain ⟨changed, hchanged, hparts⟩ := setQuery_of_parse h hquery
  have hnew : changed.query = Query.push (Query.kept uri.query) (key, value) := by rw [hparts]
  refine ⟨changed, (addQueryParam_eq uri key value).trans hchanged, ?_, ?_⟩
  · rw [hnew, hparts]
  · rw [queryParams, hnew, Query.pairs_push_kept]
    rfl

/-- A parameter with marks in it, behind pairs that are not well written, where there is
nothing but a scheme in front. -/
theorem addQueryParam_of_parse_scheme :
    ∃ uri changed, parse "a:?&b%=c=d#e" = .ok uri ∧
      uri.addQueryParam "&=" "#?" = .ok changed ∧
      changed.scheme = "a".toList ∧ changed.path = [] ∧ changed.fragment = "e".toList ∧
      changed.queryParams =
        [([], []), ("b%".toList, "c=d".toList), ("&=".toList, "#?".toList)] := by
  have hparse : parse "a:?&b%=c=d#e" = .ok {
      scheme := "a", query := "&b%=c=d", fragment := "e", text := "a:?&b%=c=d#e" } := by rfl
  obtain ⟨changed, hchanged, hparts, hparams⟩ := addQueryParam_of_parse hparse "&=" "#?"
  refine ⟨_, changed, hparse, hchanged, ?_, ?_, ?_, ?_⟩
  · rw [hparts]
  · rw [hparts]
  · rw [hparts]
  · rw [hparams]
    rfl

end Uri
end OutboundHttp
