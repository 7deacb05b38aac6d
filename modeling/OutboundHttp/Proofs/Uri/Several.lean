import OutboundHttp.Proofs.Data.Result
import OutboundHttp.Proofs.Uri.Update

/-!
# Several parameters

Parameters can be added to a uri one after the other or all at once.  Either way the uri that
comes out is known (`addInTurn_eq`, `addQueryParams_eq`): it has the query that the parameters
are pushed onto, which is a blank one only when they are added at once.  So the two ways agree
unless the uri has a query of white space, and then it is the parameters added at once that have
one more in front of them (`text_addQueryParams_eq_iff`).
-/
namespace OutboundHttp

namespace Query

open Text

variable {query : Text} {params : List (Text × Text)}

/-- A query that a parameter has been pushed onto is not blank. -/
theorem kept_push (query : Text) (pair : Text × Text) : kept (push query pair) = push query pair := by
  have hmem : '=' ∈ push query pair := by simp [push, pairText]
  have hblank : isBlank (push query pair) = false := isBlank_eq_false_of_mem hmem (by decide)
  rw [kept, hblank, if_neg Bool.false_ne_true]

theorem kept_eq_self_iff : kept query = query ↔ query = [] ∨ isBlank query = false := by
  rcases kept_cases query with ⟨hblank, hkept⟩ | ⟨hblank, hkept⟩
  · rw [hkept, hblank]
    simp [eq_comm]
  · exact ⟨fun _ => Or.inr hblank, fun _ => hkept⟩

/-- Behind a query that is not empty there is always something in front of the parameters. -/
theorem pairs_foldl_push_eq_iff (hne : params ≠ []) :
    pairs (params.foldl push query) = pairs query ++ params ↔ kept query = query := by
  constructor
  · intro h
    rcases kept_cases query with ⟨hblank, -⟩ | ⟨-, hkept⟩
    · by_cases hempty : query = []
      · subst hempty
        rfl
      · exfalso
        rw [foldl_push_eq hne, if_neg hempty, List.append_assoc, List.singleton_append,
          pairs_append hne] at h
        have hpieces : (splitOn '&' query).map readPair = pairs query :=
          List.append_cancel_right h
        rw [pairs, hblank, if_pos rfl, List.map_eq_nil_iff] at hpieces
        exact splitOn_ne_nil '&' query hpieces
    · exact hkept
  · intro hkept
    rw [← pairs_foldl_push_kept, hkept]

end Query

namespace Uri

open Text

variable {text : Text} {uri : Uri} {params : List (Text × Text)}

/-! ## One after the other -/

/-- The uri with more query parameters, which are added one after the other. -/
def addInTurn (uri : Uri) (params : List (Text × Text)) : Except UriError Uri :=
  params.foldlM (fun uri param => uri.addQueryParam param.1 param.2) uri

theorem addInTurn_cons (uri : Uri) (param : Text × Text) (params : List (Text × Text)) :
    uri.addInTurn (param :: params) =
      uri.addQueryParam param.1 param.2 >>= fun changed => changed.addInTurn params :=
  List.foldlM_cons

/-- Parameters added in turn are pushed onto the query of the uri, unless that is blank. -/
theorem addInTurn_eq (h : parse text = .ok uri) (hne : params ≠ []) :
    uri.addInTurn params = .ok (uri.withQuery (params.foldl Query.push (Query.kept uri.query))) := by
  induction params generalizing text uri with
  | nil => exact absurd rfl hne
  | cons param params ih =>
    have hquery := Query.isQuery_push_kept (wellFormed_of_parse h).query param
    rw [addInTurn_cons, addQueryParam_eq, setQuery_eq_withQuery h hquery, Result.ok_bind]
    by_cases hlast : params = []
    · subst hlast
      rfl
    · -- From the second parameter on the query is not blank.
      have hkept : Query.kept (uri.withQuery (Query.push (Query.kept uri.query) param)).query =
          Query.push (Query.kept uri.query) param := Query.kept_push _ _
      rw [ih (parse_withQuery h hquery) hlast, hkept]
      rfl

/-! ## All at once -/

/-- Parameters added at once are pushed onto the query of the uri, blank or not. -/
theorem addQueryParams_eq (h : parse text = .ok uri) (params : List (Text × Text)) :
    uri.addQueryParams params = .ok (uri.withQuery (params.foldl Query.push uri.query)) := by
  rw [addQueryParams]
  exact setQuery_eq_withQuery h (Query.isQuery_foldl_push (wellFormed_of_parse h).query params)

/-- Different queries are written differently. -/
theorem text_withQuery_eq_iff (h : parse text = .ok uri) {query query' : Text}
    (hquery : IsQuery query) (hquery' : IsQuery query') :
    (uri.withQuery query).text = (uri.withQuery query').text ↔ query = query' := by
  constructor
  · intro htext
    have hparse := parse_withQuery h hquery
    rw [htext, parse_withQuery h hquery'] at hparse
    exact (congrArg (fun uri => uri.query) (Except.ok.inj hparse)).symm
  · intro heq
    rw [heq]

/-! ## The two compared -/

/-- **Parameters added at once and in turn.**  Both always give a uri, and both give the same
text exactly if the query of the uri is empty or not blank.  Parameters added in turn stand behind
those that the uri has in any case; those added at once do so under the same condition only. -/
theorem text_addQueryParams_eq_iff (h : parse text = .ok uri) (hne : params ≠ []) :
    ∃ atOnce inTurn, uri.addQueryParams params = .ok atOnce ∧ uri.addInTurn params = .ok inTurn ∧
      (atOnce.text = inTurn.text ↔ uri.query = [] ∨ isBlank uri.query = false) ∧
      (atOnce.queryParams = uri.queryParams ++ params ↔
        uri.query = [] ∨ isBlank uri.query = false) ∧
      inTurn.queryParams = uri.queryParams ++ params := by
  have hquery := (wellFormed_of_parse h).query
  refine ⟨_, _, addQueryParams_eq h params, addInTurn_eq h hne, ?_, ?_, ?_⟩
  · rw [text_withQuery_eq_iff h (Query.isQuery_foldl_push hquery params)
      (Query.isQuery_foldl_push (Query.isQuery_kept hquery) params), ← Query.kept_eq_self_iff]
    constructor
    · intro heq
      rw [← Query.pairs_foldl_push_eq_iff hne, heq, Query.pairs_foldl_push_kept]
    · intro hkept
      rw [hkept]
  · rw [← Query.kept_eq_self_iff, ← Query.pairs_foldl_push_eq_iff hne]
    rfl
  · exact Query.pairs_foldl_push_kept uri.query params

/-- Behind a no-break space, which counts as a query only for parameters added at once. -/
theorem text_addQueryParams_eq_iff_noBreakSpace :
    ∃ uri atOnce inTurn, parse "//h:07?\u00a0#x" = .ok uri ∧
      uri.addQueryParams [("&=", "#?"), ([], " ")] = .ok atOnce ∧
      uri.addInTurn [("&=", "#?"), ([], " ")] = .ok inTurn ∧
      atOnce.text ≠ inTurn.text ∧
      inTurn.queryParams = [("&=".toList, "#?".toList), ([], " ".toList)] := by
  have hparse : parse "//h:07?\u00a0#x" = .ok {
      host := "h", port := some 7, query := "\u00a0", fragment := "x", text := "//h:07?\u00a0#x" } := by
    rfl
  obtain ⟨atOnce, inTurn, hatOnce, hinTurn, htext, -, hparams⟩ :=
    text_addQueryParams_eq_iff hparse (List.cons_ne_nil ("&=".toList, "#?".toList) [([], " ".toList)])
  refine ⟨_, atOnce, inTurn, hparse, hatOnce, hinTurn, fun h => ?_, hparams⟩
  rcases htext.mp h with hempty | hblank
  · exact absurd hempty (by decide)
  · exact absurd hblank (by decide)

/-- A space is kept as a parameter in front of those added at once, and gives way to those added
in turn. -/
theorem text_addQueryParams_of_space :
    ∃ uri atOnce inTurn, parse "http://h? " = .ok uri ∧
      uri.addQueryParams [("k", "v")] = .ok atOnce ∧ uri.addInTurn [("k", "v")] = .ok inTurn ∧
      atOnce.text = "http://h? &k=v".toList ∧ inTurn.text = "http://h?k=v".toList := by
  have hparse : parse "http://h? " = .ok {
      scheme := "http", host := "h", query := " ", text := "http://h? " } := by
    rfl
  have hatOnce := addQueryParams_eq hparse [("k".toList, "v".toList)]
  have hinTurn := addInTurn_eq hparse (List.cons_ne_nil ("k".toList, "v".toList) [])
  refine ⟨_, _, _, hparse, hatOnce, hinTurn, ?_, ?_⟩
  · rfl
  · rfl

end Uri
end OutboundHttp
