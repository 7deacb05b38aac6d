import OutboundHttp.Proofs.Builder.Build
import OutboundHttp.Proofs.Builder.Run
import OutboundHttp.Proofs.Uri.Paths
import OutboundHttp.Proofs.Uri.Query

/-!
# Where a request goes

Resource and segment values are put into the url as they are, and the url is read again
after each of them.  None of this can lead a request to another scheme, host or port than
those of the base url (`behind_resolveUrl`), whatever operations are done to the builder:
each time the text is the origin of the base url with a tail behind it, for the path begins
with a slash, and no token in braces begins in the origin.
-/
namespace OutboundHttp
namespace Builder

open Text Uri UriParts

/-- There are no line breaks in what is put into the url as it is. -/
structure NoBreaks (b : Builder) : Prop where
  fragment : NoBreak b.base.fragment
  resource : NoBreak b.resource
  values : ∀ segment ∈ b.segments.entries, NoBreak segment.2

variable {parts : UriParts} {clean : Prop}

/-! ## The steps to a url -/

/-- A path is put behind the path of a uri that stays at its origin. -/
theorem behind_appendPath {uri : Uri} (h : uri.HasOrigin) {path : Text}
    (hbreaks : clean → uri.NoBreaks ∧ NoBreak path) :
    Behind uri.toUriParts clean (uri.appendPath path) := by
  have hwith : HasOrigin { uri.toUriParts with path := Path.append uri.path path } :=
    ⟨h.scheme, h.host⟩
  refine (hwith.behind_ofParts fun hclean => ?_).of_sameOrigin ⟨rfl, rfl, rfl⟩
  obtain ⟨huri, hpath⟩ := hbreaks hclean
  exact ⟨Path.noBreak_append huri.path hpath, huri.query, huri.fragment⟩

/-- Parameters hold no line break as they are written. -/
theorem noBreak_foldl_push {query : Text} (h : NoBreak query) (params : List (Text × Text)) :
    NoBreak (params.foldl Query.push query) := by
  rw [noBreak_iff] at *
  intro c hc
  rcases Query.mem_foldl_push hc with hc | hparam
  · exact h c hc
  · exact ⟨fun hreturn => absurd (hreturn ▸ hparam) (by decide),
      fun hfeed => absurd (hfeed ▸ hparam) (by decide)⟩

theorem behind_addQueryParams {uri : Uri} (h : uri.HasOrigin) (hbreaks : clean → uri.NoBreaks)
    (params : List (Text × Text)) : Behind uri.toUriParts clean (uri.addQueryParams params) := by
  have hwith : HasOrigin { uri.toUriParts with query := params.foldl Query.push uri.query } :=
    ⟨h.scheme, h.host⟩
  refine (hwith.behind_ofParts fun hclean => ?_).of_sameOrigin ⟨rfl, rfl, rfl⟩
  exact ⟨(hbreaks hclean).path, noBreak_foldl_push (hbreaks hclean).query params,
    (hbreaks hclean).fragment⟩

/-- Substitution does not reach the origin. -/
theorem behind_parse_substitute (h : parts.HasOrigin) {segments : List (Text × Text)}
    (hkeys : AreKeyed segments) {tail : Text} (htail : IsTail tail)
    (hbreaks : clean → NoBreak tail ∧ ∀ segment ∈ segments, NoBreak segment.2) :
    Behind parts clean (parse (substitute segments (parts.origin ++ tail))) := by
  rw [substitute_append_left hkeys h.brace_not_mem]
  refine h.behind_parse (isTail_substitute hkeys htail) fun hclean => ?_
  exact noBreak_substitute (hbreaks hclean).1 (hbreaks hclean).2

/-! ## The url -/

variable {text : Text} {base : Uri} {b : Builder}

theorem hasOrigin_withTail (h : parts.HasOrigin) (tail : Text) :
    (parts.withTail tail).HasOrigin :=
  ⟨h.scheme, h.host⟩

/-- **The url of a builder** stays behind the origin of its base url. -/
theorem behind_resolveUrl (hbase : parse text = .ok base) (hhost : base.host ≠ [])
    (hb : Rooted base b) : Behind base.toUriParts b.NoBreaks b.resolveUrl := by
  have hwell := wellFormed_of_parse hbase
  have horigin := hwell.hasOrigin hhost
  have hbreaks : b.NoBreaks → base.NoBreaks := by
    intro hclean
    refine ⟨(isPlain_iff.mp hwell.path_isPlain).2.2, hwell.query.2, ?_⟩
    rw [← hb.base]
    exact hclean.fragment
  -- First the resource and then the parameters are written and read.
  have hassembled : Behind base.toUriParts b.NoBreaks b.assembledUrl := by
    rw [assembledUrl, hb.base]
    refine (behind_appendPath horigin fun hclean =>
      ⟨hbreaks hclean, hclean.resource⟩).bind fun tail _ hbreak => ?_
    exact (behind_addQueryParams (hasOrigin_withTail horigin tail)
      (fun hclean => noBreaks_withTail _ (hbreak hclean)) _).of_sameOrigin ⟨rfl, rfl, rfl⟩
  -- The url is read once more if tokens have given way to values.
  refine hassembled.bind fun tail htail hbreak => ?_
  by_cases hempty : b.segments.isEmpty = true
  · rw [if_pos hempty]
    exact Or.inl ⟨tail, htail, hbreak, rfl⟩
  · rw [if_neg hempty]
    exact behind_parse_substitute horigin hb.keys htail fun hclean =>
      ⟨hbreak hclean, hclean.values⟩

/-! ## Every run -/

/-- **No operation leads a request elsewhere.**  After any operations on a builder, valid
or not, its url has the scheme, the host and the port of the base url; the only thing
that can be wrong with it is that it is malformed, and it is not if what was put into it
as it is holds no line break.  A request that is built goes to this url. -/
theorem target_of_run (hbase : parse text = .ok base) (hhost : base.host ≠ [])
    (ops : List Operation) :
    let b := (ofUri base).run ops
    (∀ url, b.resolveUrl = .ok url → url.SameOrigin base.toUriParts) ∧
      (∀ e, b.resolveUrl = .error e → ∃ written, e = .malformed written) ∧
      (NoBreak b.resource → (∀ segment ∈ b.segments.entries, NoBreak segment.2) →
        NoBreak base.fragment → ∃ url, b.resolveUrl = .ok url) ∧
      ∀ boundary,
        (∀ request, b.build boundary = .ok request →
          request.url.SameOrigin base.toUriParts) ∧
        ∀ e, b.build boundary = .error (.uri e) → ∃ written, e = .malformed written := by
  intro b
  have hb := rooted_run base ops
  have hbehind := behind_resolveUrl hbase hhost hb
  refine ⟨fun url => hbehind.sameOrigin_of_ok, fun e => hbehind.malformed_of_error,
    fun hresource hvalues hfragment => ?_, fun boundary => ⟨fun request h => ?_, fun e h => ?_⟩⟩
  · rw [← hb.base] at hfragment
    exact hbehind.exists_ok ⟨hfragment, hresource, hvalues⟩
  · exact hbehind.sameOrigin_of_ok (resolveUrl_of_build h)
  · exact hbehind.malformed_of_error (resolveUrl_of_build_error h)

/-- Slashes, marks and tokens that bring further tokens lead nowhere else. -/
theorem target_of_run_hostile :
    ∃ base url, parse "http://h:80" = .ok base ∧
      ((ofUri base).run [.resource "//x:1/@{t}?#", .setSegment "t" "//y{u}" true,
        .setSegment "u" "http://z" false]).resolveUrl = .ok url ∧
      url.scheme = "http".toList ∧ url.host = "h".toList ∧ url.port = some 80 := by
  have hparse : parse "http://h:80" =
      .ok { scheme := "http", host := "h", port := some 80, text := "http://h:80" } := by rfl
  obtain ⟨horigin, -, hok, -⟩ := target_of_run hparse (by decide)
    [.resource "//x:1/@{t}?#", .setSegment "t" "//y{u}" true, .setSegment "u" "http://z" false]
  obtain ⟨url, hurl⟩ := hok (by decide) (by decide) (by decide)
  exact ⟨_, url, hparse, hurl, horigin url hurl⟩

end Builder
end OutboundHttp
