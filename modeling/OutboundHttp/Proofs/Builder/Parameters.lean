import OutboundHttp.Proofs.Builder.Target

/-!
# The parameters of a request

Query parameters reach the url as they were given, behind the query of the base url, as
long as nothing else in the url brings a question mark or a number sign with it.  The
question mark in front of the query then stays where it is, for no token reaches across
it, and the parameters at the end are left alone, for they are written without braces.
-/
namespace OutboundHttp
namespace Builder

open Text Uri UriParts

variable {text : Text} {base : Uri} {b : Builder}

/-- All parameters in the order of the url. -/
def allParams (b : Builder) : List (Text × Text) :=
  b.queryParams ++ b.suffixQueryParams

/-! ## Before substitution -/

theorem appendPath_eq {uri : Uri} (h : uri.Fragmentless) {path : Text} (hpath : IsPlain path) :
    ∃ written, IsRooted written ∧ IsPlain written ∧
      uri.appendPath path = .ok (uri.withPathQuery written uri.query) := by
  have hwith : Fragmentless { uri.toUriParts with path := Path.append uri.path path } :=
    ⟨⟨h.scheme, h.host⟩, Path.isPlain_append h.path hpath, h.query, h.fragment⟩
  exact hwith.ofParts_eq ⟨rfl, rfl, rfl⟩

theorem setQuery_eq {uri : Uri} (h : uri.Fragmentless) {query : Text} (hquery : IsQuery query) :
    ∃ written, IsRooted written ∧ IsPlain written ∧
      uri.setQuery query = .ok (uri.withPathQuery written query) := by
  have hwith : Fragmentless { uri.toUriParts with query := query } :=
    ⟨⟨h.scheme, h.host⟩, h.path, hquery, h.fragment⟩
  exact hwith.ofParts_eq ⟨rfl, rfl, rfl⟩

/-- The url before substitution has the parameters behind the query of the base url. -/
theorem assembledUrl_eq (h : base.Fragmentless) (hb : Rooted base b)
    (hresource : IsPlain b.resource) :
    ∃ path, IsRooted path ∧ IsPlain path ∧ b.assembledUrl =
      .ok (base.withPathQuery path (b.allParams.foldl Query.push base.query)) := by
  obtain ⟨first, -, hfirst, happend⟩ := appendPath_eq h hresource
  have hbehind := h.toHasOrigin.fragmentless_withPathQuery hfirst h.query
  obtain ⟨path, hroot, hplain, hquery⟩ :=
    setQuery_eq hbehind (Query.isQuery_foldl_push h.query b.allParams)
  refine ⟨path, hroot, hplain, ?_⟩
  have hadd : (base.withPathQuery first base.query).addQueryParams b.allParams =
      .ok (base.withPathQuery path (b.allParams.foldl Query.push base.query)) := by
    rw [addQueryParams, ← @withPathQuery_of_sameOrigin base.toUriParts
      (base.withPathQuery first base.query).toUriParts ⟨rfl, rfl, rfl⟩]
    exact hquery
  rw [assembledUrl, hb.base, happend, Result.ok_bind]
  exact hadd

/-! ## After substitution -/

/-- Substitution changes the query in front of the parameters, but not the parameters. -/
theorem substitute_foldl_push {segments : List (Text × Text)} (hkeys : AreKeyed segments)
    {params : List (Text × Text)} (hne : params ≠ []) (query : Text) :
    substitute segments (params.foldl Query.push query) =
      if query = [] then Query.paramsText params
      else substitute segments query ++ '&' :: Query.paramsText params := by
  have hbrace : '}' ∉ Query.paramsText params := by
    intro hc
    exact absurd (Query.isParamChar_of_mem_paramsText hc) (by decide)
  have hbrace' : '}' ∉ '&' :: Query.paramsText params := by simp [hbrace]
  rw [Query.foldl_push_eq hne]
  by_cases hempty : query = []
  · rw [if_pos hempty, if_pos hempty, substitute_append_right hkeys hbrace, substitute_empty,
      List.nil_append]
  · rw [if_neg hempty, if_neg hempty, List.append_assoc, List.singleton_append,
      substitute_append_right hkeys hbrace']

theorem isQuery_substitute {segments : List (Text × Text)}
    (hvalues : ∀ segment ∈ segments, IsPlain segment.2) {query : Text} (h : IsQuery query) :
    IsQuery (substitute segments query) := by
  refine ⟨fun hc => ?_, noBreak_substitute h.2 fun segment hsegment =>
    (isPlain_iff.mp (hvalues segment hsegment)).2.2⟩
  rcases mem_substitute hc with hc | ⟨segment, hsegment, hc⟩
  · exact h.1 hc
  · exact (isPlain_iff.mp (hvalues segment hsegment)).2.1 hc

/-- Path and query are dealt with on their own, as no token reaches across the question
mark between them. -/
theorem parse_substitute_pathQuery (h : base.HasOrigin) {segments : List (Text × Text)}
    (hkeys : AreKeyed segments)
    (hsegments : ∀ segment ∈ segments, '?' ∉ segment.1 ∧ IsPlain segment.2) {path query : Text}
    (hroot : IsRooted path) (hpath : IsPlain path) (hquery : IsQuery query)
    (hne : query ≠ []) (hne' : substitute segments query ≠ []) :
    parse (substitute segments (base.withPathQuery path query).text) =
      .ok (base.withPathQuery (substitute segments path) (substitute segments query)) := by
  have hvalues : ∀ segment ∈ segments, IsPlain segment.2 :=
    fun segment hsegment => (hsegments segment hsegment).2
  have hmark : ∀ {text : Text}, text ≠ [] → introduced '?' (nonEmpty? text) = '?' :: text :=
    fun htext => by rw [nonEmpty?, if_neg htext, introduced]
  have htext : substitute segments (base.withPathQuery path query).text =
      base.origin ++ (substitute segments path ++
        introduced '?' (nonEmpty? (substitute segments query))) := by
    rw [withPathQuery, substitute_append_left hkeys h.brace_not_mem, hmark hne, hmark hne',
      substitute_separated hkeys fun segment hsegment => (hsegments segment hsegment).1]
  rw [htext]
  exact h.parse_path_query (isRooted_substitute hkeys hroot) (isPlain_substitute hpath hvalues)
    (isQuery_substitute hvalues hquery)

/-- The parameters are read from the end of a query after substitution. -/
theorem exists_pairs_substitute {segments : List (Text × Text)} (hkeys : AreKeyed segments)
    {params : List (Text × Text)} (hne : params ≠ []) (query : Text) :
    ∃ before, Query.pairs (substitute segments (params.foldl Query.push query)) =
      before ++ params := by
  rw [substitute_foldl_push hkeys hne]
  split
  · exact ⟨[], Query.pairs_paramsText params⟩
  · exact ⟨_, Query.pairs_append hne _⟩

/-- The parameters keep a query from being empty, also after substitution. -/
theorem substitute_foldl_push_ne_nil {segments : List (Text × Text)} (hkeys : AreKeyed segments)
    {params : List (Text × Text)} (hne : params ≠ []) (query : Text) :
    substitute segments (params.foldl Query.push query) ≠ [] := by
  rw [substitute_foldl_push hkeys hne]
  split
  · exact List.ne_nil_of_mem (Query.equals_mem_paramsText hne)
  · exact List.append_ne_nil_of_right_ne_nil _ (List.cons_ne_nil _ _)

/-! ## The url -/

theorem resolveUrl_of_isEmpty (h : base.Fragmentless) (hb : Rooted base b)
    (hresource : IsPlain b.resource) (hempty : b.segments.isEmpty = true) :
    ∃ path, b.resolveUrl =
      .ok (base.withPathQuery path (b.allParams.foldl Query.push base.query)) := by
  obtain ⟨path, -, -, hassembled⟩ := assembledUrl_eq h hb hresource
  refine ⟨path, ?_⟩
  rw [resolveUrl, hassembled, Result.ok_bind, if_pos hempty]
  rfl

theorem resolveUrl_of_segments (h : base.Fragmentless) (hb : Rooted base b)
    (hresource : IsPlain b.resource)
    (hsegments : ∀ segment ∈ b.segments.entries, '?' ∉ segment.1 ∧ IsPlain segment.2)
    (hempty : ¬ b.segments.isEmpty = true) (hne : b.allParams ≠ []) :
    ∃ path, b.resolveUrl = .ok (base.withPathQuery path
      (substitute b.segments.entries (b.allParams.foldl Query.push base.query))) := by
  obtain ⟨path, hroot, hpath, hassembled⟩ := assembledUrl_eq h hb hresource
  refine ⟨substitute b.segments.entries path, ?_⟩
  rw [resolveUrl, hassembled, Result.ok_bind, if_neg hempty]
  exact parse_substitute_pathQuery h.toHasOrigin hb.keys hsegments hroot hpath
    (Query.isQuery_foldl_push h.query _) (Query.foldl_push_ne_nil hne _)
    (substitute_foldl_push_ne_nil hb.keys hne _)

/-! ## Every run -/

/-- **Query parameters arrive as they were given.**  Take any operations on a builder for a
base url with a host and without a fragment.  If the resource and the values of the
segments are plain and no token holds a question mark, there is a url, and the parameters
that are read from it end with those of the builder.  Without segments those of the base
url are all that comes before them, unless the query of the base url is a blank that is
not empty. -/
theorem params_of_run (hbase : parse text = .ok base) (hhost : base.host ≠ [])
    (hfragment : base.fragment = []) (ops : List Operation)
    (hresource : IsPlain ((ofUri base).run ops).resource)
    (hsegments : ∀ segment ∈ ((ofUri base).run ops).segments.entries,
      '?' ∉ segment.1 ∧ IsPlain segment.2) :
    let b := (ofUri base).run ops
    ∃ url before, b.resolveUrl = .ok url ∧
      url.queryParams = before ++ (b.queryParams ++ b.suffixQueryParams) ∧
      (b.segments.isEmpty = true → base.query = [] ∨ isBlank base.query = false →
        before = base.queryParams) := by
  intro b
  have hb : Rooted base b := rooted_run base ops
  have hregular := (wellFormed_of_parse hbase).fragmentless hhost hfragment
  by_cases hempty : b.segments.isEmpty = true
  · obtain ⟨path, hurl⟩ := resolveUrl_of_isEmpty hregular hb hresource hempty
    obtain ⟨before, hpairs, hbefore⟩ := Query.exists_pairs_foldl_push base.query b.allParams
    exact ⟨_, before, hurl, hpairs, fun _ => hbefore⟩
  by_cases hne : b.queryParams ++ b.suffixQueryParams = []
  · -- Nothing has to arrive, and there is a url for the same reason as in every run.
    have hbreaks : b.NoBreaks := by
      refine ⟨?_, (isPlain_iff.mp hresource).2.2, fun segment hsegment =>
        (isPlain_iff.mp (hsegments segment hsegment).2).2.2⟩
      rw [hb.base, hfragment]
      exact noBreak_nil
    obtain ⟨url, hurl⟩ := (behind_resolveUrl hbase hhost hb).exists_ok hbreaks
    refine ⟨url, url.queryParams, hurl, ?_, fun h => absurd h hempty⟩
    rw [hne, List.append_nil]
  · obtain ⟨path, hurl⟩ := resolveUrl_of_segments hregular hb hresource hsegments hempty hne
    obtain ⟨before, hpairs⟩ := exists_pairs_substitute hb.keys hne base.query
    exact ⟨_, before, hurl, hpairs, fun h => absurd h hempty⟩

/-- Marks and braces in parameters arrive, behind a segment in the path. -/
theorem params_of_run_marks :
    ∃ base url before, parse "http://h/a?b=c" = .ok base ∧
      ((ofUri base).run [.resource "{t}", .addQueryParam .suffix "&=" "#" false,
        .setSegment "t" "x/y" false, .addQueryParam .last "{t}" "%é" true]).resolveUrl = .ok url ∧
      url.queryParams = before ++ [("{t}".toList, "%é".toList), ("&=".toList, "#".toList)] := by
  have hparse : parse "http://h/a?b=c" = .ok
      { scheme := "http", host := "h", path := "/a", query := "b=c", text := "http://h/a?b=c" } := by
    rfl
  obtain ⟨url, before, hurl, hparams, -⟩ := params_of_run hparse (by decide) rfl
    [.resource "{t}", .addQueryParam .suffix "&=" "#" false, .setSegment "t" "x/y" false,
      .addQueryParam .last "{t}" "%é" true] (by decide) (by decide)
  exact ⟨_, url, before, hparse, hurl, hparams⟩

end Builder
end OutboundHttp
