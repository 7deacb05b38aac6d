import OutboundHttp.Proofs.Uri.Compose

/-!
# What stands behind an origin

A uri with a host keeps its origin whatever is put in the place of its path, query and
fragment (`behind_ofParts`): the text that is written then is read again as the same
scheme, host and port with a tail behind them, and the only thing that can be wrong with
it is a line break.  `Behind` says this of a result, and is kept when one step follows
another (`Behind.bind`).
-/
namespace OutboundHttp
namespace Uri

open Text

/-! ## Tails -/

/-- The text is empty or begins with a slash, a question mark or a number sign. -/
def IsTail (tail : Text) : Prop :=
  ∀ c ∈ tail.head?, c = '/' ∨ c = '?' ∨ c = '#'

@[simp] theorem isTail_nil : IsTail [] := by
  simp [IsTail]

@[simp] theorem isTail_cons {c : Char} {rest : Text} :
    IsTail (c :: rest) ↔ c = '/' ∨ c = '?' ∨ c = '#' := by
  simp [IsTail]

theorem IsTail.isRooted_front {tail : Text} (h : IsTail tail) :
    IsRooted (Sections.ofText tail).front := by
  cases tail with
  | nil => exact Or.inl rfl
  | cons c rest =>
    rcases isTail_cons.mp h with rfl | rfl | rfl
    · have hslash : IsPlain ['/'] := by simp
      have hsections := Sections.ofText_append hslash rest
      rw [List.singleton_append] at hsections
      rw [hsections]
      exact Or.inr rfl
    · rw [Sections.ofText_query]
      exact Or.inl rfl
    · rw [Sections.ofText_fragment]
      exact Or.inl rfl

theorem isTail_append {path marks : Text} (hpath : IsRooted path) (hmarks : IsTail marks) :
    IsTail (path ++ marks) := by
  cases path with
  | nil => exact hmarks
  | cons c rest =>
    rcases hpath with hpath | hpath
    · cases hpath
    · exact isTail_cons.mpr (Or.inl (Option.some.inj hpath))

/-! ## Line breaks -/

theorem noBreak_introduced {sep : Char} (hsep : NoBreak [sep]) {text : Option Text} :
    NoBreak (introduced sep text) ↔ ∀ t ∈ text, NoBreak t := by
  cases text with
  | none => simp [introduced]
  | some text =>
    rw [introduced, noBreak_cons]
    simp [(noBreak_cons.mp hsep).1]

theorem Sections.noBreak_text_iff {s : Sections} :
    NoBreak s.text ↔
      NoBreak s.front ∧ (∀ q ∈ s.query, NoBreak q) ∧ ∀ f ∈ s.fragment, NoBreak f := by
  have hquery : NoBreak ['?'] := by simp
  have hfragment : NoBreak ['#'] := by simp
  rw [Sections.text, noBreak_append, noBreak_append, noBreak_introduced hquery,
    noBreak_introduced hfragment]

/-- The sections of a text without line breaks have none. -/
theorem noBreak_sections {text : Text} (h : NoBreak text) :
    NoBreak (Sections.ofText text).front ∧ (∀ q ∈ (Sections.ofText text).query, NoBreak q) ∧
      ∀ f ∈ (Sections.ofText text).fragment, NoBreak f := by
  rw [← Sections.text_ofText text] at h
  exact Sections.noBreak_text_iff.mp h

theorem unbroken_of_noBreak {text : Text} (h : NoBreak text) : (Sections.ofText text).Unbroken := by
  obtain ⟨hfront, hquery, hfragment⟩ := noBreak_sections h
  exact ⟨hfront, hquery, fun f hf => (hfragment f hf).2⟩

theorem noBreak_getD {text : Option Text} (h : ∀ t ∈ text, NoBreak t) : NoBreak (text.getD []) := by
  cases text with
  | none => exact noBreak_nil
  | some text => exact h text rfl

theorem noBreak_nonEmpty? {text : Text} :
    (∀ t ∈ nonEmpty? text, NoBreak t) ↔ NoBreak text := by
  cases text <;> simp [nonEmpty?]

end Uri

namespace UriParts

open Text Uri

/-- Path, query and fragment hold no line break. -/
structure NoBreaks (parts : UriParts) : Prop where
  path : NoBreak parts.path
  query : NoBreak parts.query
  fragment : NoBreak parts.fragment

theorem NoBreaks.tail {parts : UriParts} (h : parts.NoBreaks) : NoBreak parts.tail := by
  have hquery : NoBreak ['?'] := by simp
  have hfragment : NoBreak ['#'] := by simp
  have hpath : NoBreak parts.writtenPath := by
    unfold writtenPath
    split
    · exact noBreak_cons.mpr ⟨by decide, h.path⟩
    · exact h.path
  rw [UriParts.tail, noBreak_append, noBreak_append, noBreak_introduced hquery,
    noBreak_introduced hfragment, noBreak_nonEmpty?, noBreak_nonEmpty?]
  exact ⟨hpath, h.query, h.fragment⟩

theorem noBreaks_withTail (parts : UriParts) {tail : Text} (h : NoBreak tail) :
    (parts.withTail tail).NoBreaks := by
  obtain ⟨hfront, hquery, hfragment⟩ := noBreak_sections h
  exact ⟨hfront, noBreak_getD hquery, noBreak_getD hfragment⟩

theorem isRooted_writtenPath {parts : UriParts} (hhost : parts.host ≠ []) :
    IsRooted parts.writtenPath := by
  unfold writtenPath
  by_cases hpath : IsRooted parts.path
  · rw [if_neg fun h => h.2 hpath]
    exact hpath
  · rw [if_pos ⟨hhost, hpath⟩]
    exact Or.inr rfl

theorem isTail_tail {parts : UriParts} (hhost : parts.host ≠ []) : IsTail parts.tail := by
  refine isTail_append (isRooted_writtenPath hhost) ?_
  cases nonEmpty? parts.query with
  | some query => exact isTail_cons.mpr (Or.inr (Or.inl rfl))
  | none =>
    cases nonEmpty? parts.fragment with
    | some fragment => exact isTail_cons.mpr (Or.inr (Or.inr rfl))
    | none => exact isTail_nil

/-! ## Origins -/

/-- The parts can be those of a uri with a host. -/
structure HasOrigin (parts : UriParts) : Prop where
  scheme : ∀ c ∈ parts.scheme, isLetter c
  host : IsHost parts.host

theorem WellFormed.hasOrigin {parts : UriParts} (h : parts.WellFormed) (hhost : parts.host ≠ []) :
    parts.HasOrigin :=
  ⟨h.scheme, h.host.resolve_left hhost⟩

theorem HasOrigin.brace_not_mem {parts : UriParts} (h : parts.HasOrigin) : '{' ∉ parts.origin := by
  intro hc
  have hbrace := isOriginChar_of_mem_origin h.scheme (Or.inr h.host) '{' hc
  exact absurd hbrace (by decide)

/-- Scheme, host and port are the same. -/
def SameOrigin (a b : UriParts) : Prop :=
  a.scheme = b.scheme ∧ a.host = b.host ∧ a.port = b.port

variable {parts : UriParts}

theorem HasOrigin.ofParts_eq (h : parts.HasOrigin) :
    ofParts parts = parse (parts.origin ++ parts.tail) := by
  rw [ofParts, compose_eq h.scheme (Or.inr h.host)]

/-! ## Uris without a fragment -/

/-- The parts of a uri with a host and without a fragment. -/
structure Fragmentless (parts : UriParts) : Prop extends parts.HasOrigin where
  path : IsPlain parts.path
  query : IsQuery parts.query
  fragment : parts.fragment = []

theorem WellFormed.fragmentless (h : parts.WellFormed) (hhost : parts.host ≠ [])
    (hfragment : parts.fragment = []) : parts.Fragmentless where
  toHasOrigin := h.hasOrigin hhost
  path := h.path_isPlain
  query := h.query
  fragment := hfragment

/-- The uri with the scheme, host and port of some parts, a path, a query and no fragment. -/
def withPathQuery (parts : UriParts) (path query : Text) : Uri where
  scheme := parts.scheme
  host := parts.host
  port := parts.port
  path := path
  query := query
  text := parts.origin ++ (path ++ introduced '?' (nonEmpty? query))

theorem withPathQuery_of_sameOrigin {other : UriParts} (h : other.SameOrigin parts)
    (path query : Text) : other.withPathQuery path query = parts.withPathQuery path query := by
  obtain ⟨hscheme, hhost, hport⟩ := h
  simp only [withPathQuery, origin, portDigits, hscheme, hhost, hport]

theorem HasOrigin.fragmentless_withPathQuery (h : parts.HasOrigin) {path query : Text}
    (hpath : IsPlain path) (hquery : IsQuery query) :
    (parts.withPathQuery path query).Fragmentless where
  scheme := h.scheme
  host := h.host
  path := hpath
  query := hquery
  fragment := rfl

/-- Path and query behind an origin are told apart by the question mark. -/
theorem HasOrigin.parse_path_query (h : parts.HasOrigin) {path query : Text} (hroot : IsRooted path)
    (hpath : IsPlain path) (hquery : IsQuery query) :
    parse (parts.origin ++ (path ++ introduced '?' (nonEmpty? query))) =
      .ok (parts.withPathQuery path query) := by
  have hsections := @sections_of_parts path query [] hpath hquery
  have hunbroken := @unbroken_of_parts path query [] hpath hquery List.not_mem_nil
  have hnone : introduced '#' (nonEmpty? []) = [] := rfl
  rw [hnone, List.append_nil] at hsections
  rw [parse_origin_append h.scheme h.host (by rw [hsections]; exact hroot)
    (by rw [hsections]; exact hunbroken)]
  simp only [withTail, hsections, nonEmpty?_getD, withPathQuery]

theorem isPlain_writtenPath (h : IsPlain parts.path) : IsPlain parts.writtenPath := by
  unfold writtenPath
  split
  · exact isPlain_cons.mpr ⟨by decide, h⟩
  · exact h

/-- Parts without a fragment are read again behind their origin, with a slash in front of
the path if it had none. -/
theorem Fragmentless.ofParts_eq {other : UriParts} (h : other.Fragmentless)
    (hsame : other.SameOrigin parts) : ∃ path, IsRooted path ∧ IsPlain path ∧
      ofParts other = .ok (parts.withPathQuery path other.query) := by
  have hroot := isRooted_writtenPath h.host.ne_nil
  have hplain := isPlain_writtenPath h.path
  have hnone : introduced '#' (nonEmpty? other.fragment) = [] := by
    rw [h.fragment]
    rfl
  refine ⟨other.writtenPath, hroot, hplain, ?_⟩
  rw [h.toHasOrigin.ofParts_eq, UriParts.tail, hnone, List.append_nil,
    h.parse_path_query hroot hplain h.query, withPathQuery_of_sameOrigin hsame]

/-! ## Results behind an origin -/

/-- The result is the origin of some parts with a tail behind it.  Only if something is
not `clean` can there be a line break, and then the text may be malformed instead. -/
def Behind (parts : UriParts) (clean : Prop) (result : Except UriError Uri) : Prop :=
  (∃ tail, IsTail tail ∧ (clean → NoBreak tail) ∧ result = .ok (parts.withTail tail)) ∨
    ¬ clean ∧ ∃ text, result = .error (.malformed text)

variable {clean : Prop} {result : Except UriError Uri}

theorem HasOrigin.behind_parse (h : parts.HasOrigin) {tail : Text} (htail : IsTail tail)
    (hbreak : clean → NoBreak tail) : Behind parts clean (parse (parts.origin ++ tail)) := by
  by_cases hunbroken : (Sections.ofText tail).Unbroken
  · exact Or.inl ⟨tail, htail, hbreak,
      parse_origin_append h.scheme h.host htail.isRooted_front hunbroken⟩
  · exact Or.inr ⟨fun hclean => hunbroken (unbroken_of_noBreak (hbreak hclean)), _,
      parse_origin_append_of_broken h.scheme h.host hunbroken⟩

/-- **Whatever path, query and fragment are,** parts that are written and read stay behind
their origin. -/
theorem HasOrigin.behind_ofParts (h : parts.HasOrigin) (hbreaks : clean → parts.NoBreaks) :
    Behind parts clean (ofParts parts) := by
  rw [h.ofParts_eq]
  exact h.behind_parse (isTail_tail h.host.ne_nil) fun hclean => (hbreaks hclean).tail

theorem Behind.bind {next : Uri → Except UriError Uri} (h : Behind parts clean result)
    (hnext : ∀ tail, IsTail tail → (clean → NoBreak tail) →
      Behind parts clean (next (parts.withTail tail))) : Behind parts clean (result >>= next) := by
  rcases h with ⟨tail, htail, hbreak, rfl⟩ | ⟨hclean, text, rfl⟩
  · exact hnext tail htail hbreak
  · exact Or.inr ⟨hclean, text, rfl⟩

theorem Behind.of_sameOrigin {other : UriParts} (h : Behind other clean result)
    (hsame : other.SameOrigin parts) : Behind parts clean result := by
  obtain ⟨hscheme, hhost, hport⟩ := hsame
  have horigin : ∀ tail, other.withTail tail = parts.withTail tail := fun tail => by
    simp only [withTail, origin, portDigits, hscheme, hhost, hport]
  rcases h with ⟨tail, htail, hbreak, rfl⟩ | herror
  · exact Or.inl ⟨tail, htail, hbreak, by rw [horigin]⟩
  · exact Or.inr herror

theorem Behind.sameOrigin_of_ok (h : Behind parts clean result) {uri : Uri}
    (hresult : result = .ok uri) : uri.SameOrigin parts := by
  rcases h with ⟨tail, -, -, rfl⟩ | ⟨-, text, rfl⟩
  · cases hresult
    exact ⟨rfl, rfl, rfl⟩
  · cases hresult

theorem Behind.malformed_of_error (h : Behind parts clean result) {e : UriError}
    (hresult : result = .error e) : ∃ text, e = .malformed text := by
  rcases h with ⟨tail, -, -, rfl⟩ | ⟨-, text, rfl⟩
  · cases hresult
  · cases hresult
    exact ⟨text, rfl⟩

theorem Behind.exists_ok (h : Behind parts clean result) (hclean : clean) :
    ∃ uri, result = .ok uri := by
  rcases h with ⟨tail, -, -, rfl⟩ | ⟨hnot, -⟩
  · exact ⟨_, rfl⟩
  · exact absurd hclean hnot

end UriParts
end OutboundHttp
