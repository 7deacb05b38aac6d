import OutboundHttp.Proofs.Uri.Paths
import OutboundHttp.Proofs.Uri.Tail
import OutboundHttp.Uri.Resolve

/-!
# Uris seen from a base

A relative uri seen from a base with a host is always a uri, and its parts are those that the
two have been given (`combine_of_parse`).  Whatever the relative path holds, be it slashes,
colons or brackets, it stands behind a slash of the path of the base or behind the host, so
none of it is read as a scheme or a host.
-/
namespace OutboundHttp
namespace Path

open Text Uri

/-! ## Directories -/

/-- A path through its last slash; only a slash if there is no path. -/
def directory (path : Text) : Text :=
  if path = [] then ['/'] else trimEnd (· != '/') path

theorem directory_append_cons {name : Text} (h : '/' ∉ name) (before : Text) :
    directory (before ++ '/' :: name) = before ++ ['/'] := by
  have hne : before ++ '/' :: name ≠ [] := List.append_ne_nil_of_right_ne_nil _ (by simp)
  rw [directory, if_neg hne, trimEnd_append_cons h]

theorem isPlain_directory {path : Text} (h : IsPlain path) : IsPlain (directory path) := by
  unfold directory
  split
  · simp
  · exact fun c hc => h c (mem_of_mem_trimEnd hc)

/-- The second path as it stands behind a host, seen from the directory of the first. -/
def join (base relative : Text) : Text :=
  if relative.head? = some '/' then relative else directory base ++ relative

theorem join_of_slash {relative : Text} (base : Text) (h : relative.head? = some '/') :
    join base relative = relative :=
  if_pos h

theorem join_of_name {relative : Text} (base : Text) (h : relative.head? ≠ some '/') :
    join base relative = directory base ++ relative :=
  if_neg h

theorem isRooted_join {base : Text} (hbase : IsRooted base) (relative : Text) :
    IsRooted (join base relative) := by
  unfold join
  split
  · exact Or.inr ‹_›
  · rcases hbase with rfl | hslash
    · exact Or.inr rfl
    · obtain ⟨before, name, rfl, hname⟩ := exists_last_of_mem (List.mem_of_mem_head? hslash)
      rw [directory_append_cons hname]
      cases before with
      | nil => exact Or.inr rfl
      | cons c before => exact Or.inr hslash

theorem isPlain_join {base relative : Text} (hbase : IsPlain base) (hrelative : IsPlain relative) :
    IsPlain (join base relative) := by
  unfold join
  split
  · exact hrelative
  · exact Uri.isPlain_append.mpr ⟨isPlain_directory hbase, hrelative⟩

theorem resolve_of_slash {base relative : Text} (h : relative.head? = some '/') :
    resolve base relative = relative := by
  have hmem : '/' ∈ relative := List.mem_of_mem_head? h
  have hbeq : (relative.head? == some '/') = true := beq_iff_eq.mpr h
  rw [resolve, isBlank_eq_false_of_mem hmem (by decide), if_neg Bool.false_ne_true, if_pos hbeq]

theorem resolve_of_not_mem {base relative : Text} (hbase : '/' ∉ base)
    (h : isBlank relative = false) : resolve base relative = relative := by
  rw [resolve, h, if_neg Bool.false_ne_true, beforeLast?_of_not_mem hbase]
  split <;> rfl

theorem resolve_append_cons {name relative : Text} (hname : '/' ∉ name)
    (hblank : isBlank relative = false) (h : relative.head? ≠ some '/') (before : Text) :
    resolve (before ++ '/' :: name) relative = before ++ '/' :: relative := by
  have hbeq : ¬ (relative.head? == some '/') = true := fun heq => h (beq_iff_eq.mp heq)
  rw [resolve, hblank, if_neg Bool.false_ne_true, if_neg hbeq, beforeLast?_append_cons hname]

/-- Paths are joined when they are resolved, but for the slash behind a host that has no path:
it is written later. -/
theorem resolve_cases {base relative : Text} (hbase : IsRooted base)
    (hblank : isBlank relative = false) :
    resolve base relative = join base relative ∨
      ¬ IsRooted (resolve base relative) ∧
        '/' :: resolve base relative = join base relative := by
  by_cases hhead : relative.head? = some '/'
  · refine Or.inl ?_
    rw [resolve_of_slash hhead, join_of_slash base hhead]
  · rw [join_of_name base hhead]
    rcases hbase with rfl | hslash
    · have hne := ne_nil_of_isBlank_eq_false hblank
      rw [resolve_of_not_mem List.not_mem_nil hblank]
      exact Or.inr ⟨not_or.mpr ⟨hne, hhead⟩, rfl⟩
    · obtain ⟨before, name, rfl, hname⟩ := exists_last_of_mem (List.mem_of_mem_head? hslash)
      rw [resolve_append_cons hname hblank hhead, directory_append_cons hname]
      exact Or.inl (by simp)

end Path

namespace UriParts

open Text Uri

variable {parts : UriParts}

/-! ## Parts behind an origin -/

theorem writtenPath_of_isRooted (h : IsRooted parts.path) : parts.writtenPath = parts.path :=
  if_neg fun hnot => hnot.2 h

theorem writtenPath_resolve {relative : Text} (hhost : parts.host ≠ []) (hpath : IsRooted parts.path)
    (hblank : isBlank relative = false) :
    writtenPath { parts with path := Path.resolve parts.path relative } =
      Path.join parts.path relative := by
  rcases Path.resolve_cases hpath hblank with hjoin | ⟨hroot, hjoin⟩
  · rw [hjoin]
    exact writtenPath_of_isRooted (Path.isRooted_join hpath relative)
  · rw [writtenPath, if_pos ⟨hhost, hroot⟩]
    exact hjoin

/-- **Behind an origin** path, query and fragment are read as they were written. -/
theorem HasOrigin.exists_ofParts (h : parts.HasOrigin) {path : Text}
    (hwritten : parts.writtenPath = path) (hpath : IsPlain path) (hquery : IsQuery parts.query)
    (hfragment : '\n' ∉ parts.fragment) :
    ∃ uri, ofParts parts = .ok uri ∧ parse uri.text = .ok uri ∧
      uri.toUriParts = { parts with path := path } := by
  subst hwritten
  have hsections : Sections.ofText parts.tail =
      ⟨parts.writtenPath, nonEmpty? parts.query, nonEmpty? parts.fragment⟩ :=
    sections_of_parts hpath hquery
  have hroot : IsRooted (Sections.ofText parts.tail).front := by
    rw [hsections]
    exact isRooted_writtenPath h.host.ne_nil
  have hunbroken : (Sections.ofText parts.tail).Unbroken := by
    rw [hsections]
    exact unbroken_of_parts hpath hquery hfragment
  have hparse := parse_origin_append h.scheme h.host hroot hunbroken
  refine ⟨_, h.ofParts_eq.trans hparse, hparse, ?_⟩
  simp only [withTail, hsections, nonEmpty?_getD]

end UriParts

namespace Uri

open Text

variable {text other : Text} {base relative uri : Uri}

/-! ## Four ways to be relative -/

/-- What is relative to the scheme of the base only. -/
theorem exists_combine_of_host (hbase : parse text = .ok base)
    (hrelative : parse other = .ok relative) (hscheme : relative.scheme = [])
    (hhost : relative.host ≠ []) :
    ∃ uri, base.combine relative = .ok uri ∧ parse uri.text = .ok uri ∧
      uri.toUriParts = { relative.toUriParts with scheme := base.scheme } := by
  have hwell := wellFormed_of_parse hrelative
  have hishost := hwell.host.resolve_left hhost
  have hcombine : base.combine relative =
      ofParts { relative.toUriParts with scheme := base.scheme } := by
    simp [combine, hscheme, isBlank_host hishost]
  rw [hcombine]
  have horigin : UriParts.HasOrigin { relative.toUriParts with scheme := base.scheme } :=
    ⟨(wellFormed_of_parse hbase).scheme, hishost⟩
  exact horigin.exists_ofParts (UriParts.writtenPath_of_isRooted (hwell.path_isRooted hhost))
    hwell.path_isPlain hwell.query hwell.fragment

/-- What is relative to the host of the base. -/
theorem exists_combine_of_path (hbase : parse text = .ok base) (hhost : base.host ≠ [])
    (hrelative : parse other = .ok relative) (hscheme : relative.scheme = [])
    (hnone : relative.host = []) (hblank : isBlank relative.path = false) :
    ∃ uri, base.combine relative = .ok uri ∧ parse uri.text = .ok uri ∧
      uri.toUriParts = { base.toUriParts with
        path := Path.join base.path relative.path
        query := relative.query
        fragment := relative.fragment } := by
  have hwell := wellFormed_of_parse hrelative
  have hwellBase := wellFormed_of_parse hbase
  have horigin : UriParts.HasOrigin { base.toUriParts with
      path := Path.resolve base.path relative.path
      query := relative.query
      fragment := relative.fragment } :=
    ⟨hwellBase.scheme, hwellBase.host.resolve_left hhost⟩
  have hcombine : base.combine relative = ofParts { base.toUriParts with
      path := Path.resolve base.path relative.path
      query := relative.query
      fragment := relative.fragment } := by
    simp [combine, hscheme, hnone, hblank]
  rw [hcombine]
  exact horigin.exists_ofParts
    (UriParts.writtenPath_resolve hhost (hwellBase.path_isRooted hhost) hblank)
    (Path.isPlain_join hwellBase.path_isPlain hwell.path_isPlain) hwell.query hwell.fragment

/-- What is relative to the path of the base. -/
theorem exists_combine_of_blank (hbase : parse text = .ok base) (hhost : base.host ≠ [])
    (hrelative : parse other = .ok relative) (hscheme : relative.scheme = [])
    (hnone : relative.host = []) (hblank : isBlank relative.path = true) :
    ∃ uri, base.combine relative = .ok uri ∧ parse uri.text = .ok uri ∧
      uri.toUriParts = { base.toUriParts with
        query := relative.query, fragment := relative.fragment } := by
  have hwell := wellFormed_of_parse hrelative
  have hwellBase := wellFormed_of_parse hbase
  have horigin : UriParts.HasOrigin { base.toUriParts with
      query := relative.query, fragment := relative.fragment } :=
    ⟨hwellBase.scheme, hwellBase.host.resolve_left hhost⟩
  have hcombine : base.combine relative = ofParts { base.toUriParts with
      query := relative.query, fragment := relative.fragment } := by
    simp [combine, hscheme, hnone, hblank]
  rw [hcombine]
  exact horigin.exists_ofParts
    (UriParts.writtenPath_of_isRooted (hwellBase.path_isRooted hhost)) hwellBase.path_isPlain
    hwell.query hwell.fragment

/-- **A relative uri is always a uri when it is seen from a base with a host.**  With a scheme
it stays as it is; with a host it only takes the scheme of the base; with a path this is put
behind the directory of the base's path unless it begins with a slash; otherwise all but query
and fragment are those of the base.  These are the parts that are read from its text. -/
theorem combine_of_parse (hbase : parse text = .ok base) (hhost : base.host ≠ [])
    (hrelative : parse other = .ok relative) :
    ∃ uri, base.combine relative = .ok uri ∧ parse uri.text = .ok uri ∧
      (relative.scheme ≠ [] → uri = relative) ∧
      (relative.scheme = [] → relative.host ≠ [] →
        uri.toUriParts = { relative.toUriParts with scheme := base.scheme }) ∧
      (relative.scheme = [] → relative.host = [] → isBlank relative.path = false →
        uri.toUriParts = { base.toUriParts with
          path := if relative.path.head? = some '/' then relative.path
            else Path.directory base.path ++ relative.path
          query := relative.query
          fragment := relative.fragment }) ∧
      (relative.scheme = [] → relative.host = [] → isBlank relative.path = true →
        uri.toUriParts = { base.toUriParts with
          query := relative.query
          fragment := relative.fragment }) := by
  by_cases hscheme : relative.scheme = []
  · by_cases hnone : relative.host = []
    · cases hblank : isBlank relative.path with
      | false =>
        obtain ⟨uri, huri, htext, hparts⟩ :=
          exists_combine_of_path hbase hhost hrelative hscheme hnone hblank
        exact ⟨uri, huri, htext, absurd hscheme, fun _ => absurd hnone, fun _ _ _ => hparts,
          fun _ _ => nofun⟩
      | true =>
        obtain ⟨uri, huri, htext, hparts⟩ :=
          exists_combine_of_blank hbase hhost hrelative hscheme hnone hblank
        exact ⟨uri, huri, htext, absurd hscheme, fun _ => absurd hnone, fun _ _ => nofun,
          fun _ _ _ => hparts⟩
    · obtain ⟨uri, huri, htext, hparts⟩ :=
        exists_combine_of_host hbase hrelative hscheme hnone
      exact ⟨uri, huri, htext, absurd hscheme, fun _ _ => hparts, fun _ h => absurd h hnone,
        fun _ h => absurd h hnone⟩
  · have hcombine : base.combine relative = .ok relative := by
      simp [combine, isBlank_scheme (wellFormed_of_parse hrelative).scheme hscheme]
    have htext : relative.text = other := by rw [(parse_eq_ok_iff.mp hrelative).2.2.2]
    exact ⟨relative, hcombine, htext ▸ hrelative, fun _ => rfl, fun h => absurd h hscheme,
      fun h => absurd h hscheme, fun h => absurd h hscheme⟩

/-- A path that looks like a scheme with a host behind it stays a path. -/
theorem combine_of_parse_colon :
    ∃ base relative uri, parse "http://h:80/a/b?q" = .ok base ∧ parse "c:d//e#f" = .ok relative ∧
      base.combine relative = .ok uri ∧ uri.host = "h".toList ∧ uri.path = "/a/c:d//e".toList ∧
      uri.query = [] ∧ uri.fragment = "f".toList := by
  have hbase : parse "http://h:80/a/b?q" = .ok {
      scheme := "http", host := "h", port := some 80, path := "/a/b", query := "q",
      text := "http://h:80/a/b?q" } := by rfl
  have hrelative : parse "c:d//e#f" = .ok {
      path := "c:d//e", fragment := "f", text := "c:d//e#f" } := by rfl
  obtain ⟨uri, huri, -, -, -, hpath, -⟩ := combine_of_parse hbase (by decide) hrelative
  have hparts := hpath rfl rfl (by decide)
  refine ⟨_, _, uri, hbase, hrelative, huri, ?_⟩
  rw [hparts]
  exact ⟨rfl, by decide, rfl, rfl⟩

end Uri
end OutboundHttp
