import OutboundHttp.Proofs.Uri.Append

/-!
# Resolving in steps

The parts that a relative uri comes to behind a host are told by its parts and those of the base
alone (`UriParts.target`, `exists_combine_of_parse`).  So three uris come to the same parts in
either order if the one in the middle has a host (`UriParts.target_target_of_host`), and two paths
do, since of the first only the last name gives way (`Path.target_resolve`).

What is left is that the last two can be resolved with no base at all, where a path may be read as
more than a path.  That takes two slashes in front of it (`IsPathOnly.resolve`,
`combine_of_slashes`); without them a uri is found in two steps as well as at once
(`combine_combine_of_parse`).
-/
namespace OutboundHttp
namespace Path

open Text Uri

/-- The path that two paths come to behind a host; a blank one leaves the first as it is. -/
def target (base relative : Text) : Text :=
  if isBlank relative then base else join base relative

theorem target_of_blank {relative : Text} (base : Text) (h : isBlank relative = true) :
    target base relative = base :=
  if_pos h

theorem target_of_not_blank {relative : Text} (base : Text) (h : isBlank relative = false) :
    target base relative = join base relative := by
  rw [target, h]
  rfl

theorem isBlank_append_slash (before name : Text) : isBlank (before ++ '/' :: name) = false :=
  isBlank_eq_false_of_mem (List.mem_append_right before List.mem_cons_self) (by decide)

/-- Behind a host a directory ends with a slash. -/
theorem exists_directory_eq {base : Text} (h : IsRooted base) :
    ∃ before, directory base = before ++ ['/'] := by
  rcases h with rfl | hslash
  · exact ⟨[], rfl⟩
  · obtain ⟨before, name, rfl, hname⟩ := exists_last_of_mem (List.mem_of_mem_head? hslash)
    exact ⟨before, directory_append_cons hname before⟩

/-- The directory of what stands in a directory is this directory. -/
theorem directory_directory_append {base name : Text} (h : IsRooted base) (hname : '/' ∉ name) :
    directory (directory base ++ name) = directory base := by
  obtain ⟨before, hdirectory⟩ := exists_directory_eq h
  rw [hdirectory, List.append_assoc, List.singleton_append, directory_append_cons hname]

/-- A path that is resolved is one of the two, or the second stands behind a slash of the first. -/
theorem resolve_inv (base relative : Text) :
    resolve base relative = base ∨ resolve base relative = relative ∨
      ∃ before name, base = before ++ '/' :: name ∧ relative.head? ≠ some '/' ∧
        resolve base relative = before ++ '/' :: relative := by
  cases hblank : isBlank relative with
  | true => exact Or.inl (if_pos hblank)
  | false =>
    refine Or.inr ?_
    by_cases hslash : relative.head? = some '/'
    · exact Or.inl (resolve_of_slash hslash)
    · by_cases hmem : '/' ∈ base
      · obtain ⟨before, name, rfl, hname⟩ := exists_last_of_mem hmem
        exact Or.inr ⟨before, name, rfl, hslash, resolve_append_cons hname hblank hslash before⟩
      · exact Or.inl (resolve_of_not_mem hmem hblank)

theorem isPlain_resolve {base relative : Text} (hbase : IsPlain base) (hrelative : IsPlain relative) :
    IsPlain (resolve base relative) := by
  rcases resolve_inv base relative with heq | heq | ⟨before, name, rfl, -, heq⟩
  · rwa [heq]
  · rwa [heq]
  · obtain ⟨hbefore, -⟩ := Uri.isPlain_append.mp hbase
    rw [heq]
    simp [hbefore, hrelative]

/-- What stands in front of a slash of a path is put behind the base whatever follows it. -/
theorem exists_join_slash (base before : Text) :
    ∃ front, ∀ rest, join base (before ++ '/' :: rest) = front ++ '/' :: rest := by
  by_cases hslash : (before ++ ['/']).head? = some '/'
  · refine ⟨before, fun rest => join_of_slash base ?_⟩
    cases before with
    | nil => rfl
    | cons c before => exact hslash
  · refine ⟨directory base ++ before, fun rest => ?_⟩
    have hname : (before ++ '/' :: rest).head? ≠ some '/' := by
      cases before with
      | nil => exact absurd rfl hslash
      | cons c before => exact hslash
    rw [join_of_name base hname, List.append_assoc]

/-- **Two relative paths behind a host** come to the same one after the other as joined. -/
theorem target_resolve {base : Text} (hbase : IsRooted base) (middle relative : Text) :
    target (target base middle) relative = target base (resolve middle relative) := by
  cases hblank : isBlank relative with
  | true =>
    have hresolve : resolve middle relative = middle := if_pos hblank
    rw [target_of_blank _ hblank, hresolve]
  | false =>
    rw [target_of_not_blank _ hblank]
    by_cases hslash : relative.head? = some '/'
    · rw [resolve_of_slash hslash, target_of_not_blank base hblank, join_of_slash _ hslash,
        join_of_slash _ hslash]
    · rw [join_of_name _ hslash]
      by_cases hmem : '/' ∈ middle
      · -- The path in the middle gives way from its last slash on.
        obtain ⟨before, name, rfl, hname⟩ := exists_last_of_mem hmem
        obtain ⟨front, hfront⟩ := exists_join_slash base before
        rw [resolve_append_cons hname hblank hslash,
          target_of_not_blank _ (isBlank_append_slash _ _),
          target_of_not_blank _ (isBlank_append_slash _ _), hfront, hfront,
          directory_append_cons hname, List.append_assoc, List.singleton_append]
      · -- All of it gives way, and the directory of the base is left.
        rw [resolve_of_not_mem hmem hblank, target_of_not_blank base hblank,
          join_of_name _ hslash]
        cases hmiddle : isBlank middle with
        | true => rw [target_of_blank base hmiddle]
        | false =>
          have hname : middle.head? ≠ some '/' := fun hhead => hmem (List.mem_of_mem_head? hhead)
          rw [target_of_not_blank base hmiddle, join_of_name base hname,
            directory_directory_append hbase hmem]

end Path

namespace UriParts

open Text Uri

variable {base middle relative : UriParts}

/-- The parts that a relative uri comes to when it is seen from a base with a host. -/
def target (base relative : UriParts) : UriParts :=
  if relative.scheme ≠ [] then relative
  else if relative.host ≠ [] then { relative with scheme := base.scheme }
  else { base with
    path := Path.target base.path relative.path
    query := relative.query
    fragment := relative.fragment }

theorem target_of_scheme (base : UriParts) (h : relative.scheme ≠ []) :
    base.target relative = relative :=
  if_pos h

theorem target_of_host (base : UriParts) (hscheme : relative.scheme = [])
    (hhost : relative.host ≠ []) :
    base.target relative = { relative with scheme := base.scheme } := by
  rw [target, if_neg (not_not_intro hscheme), if_pos hhost]

theorem target_of_path (base : UriParts) (hscheme : relative.scheme = [])
    (hhost : relative.host = []) :
    base.target relative = { base with
      path := Path.target base.path relative.path
      query := relative.query
      fragment := relative.fragment } := by
  rw [target, if_neg (not_not_intro hscheme), if_neg (not_not_intro hhost)]

/-- Three uris come to the same parts in either order if the one in the middle has a host. -/
theorem target_target_of_host (h : middle.host ≠ []) (base relative : UriParts) :
    (base.target middle).target relative = base.target (middle.target relative) := by
  by_cases hscheme : relative.scheme = []
  · by_cases hhost : relative.host = [] <;> by_cases hmiddle : middle.scheme = [] <;>
      simp [target, h, hscheme, hhost, hmiddle]
  · rw [target_of_scheme _ hscheme, target_of_scheme _ hscheme, target_of_scheme _ hscheme]

/-- And so they do if those after the first are paths, which are resolved first. -/
theorem target_target_of_paths (hbase : IsRooted base.path) (hscheme : middle.scheme = [])
    (hhost : middle.host = []) (hnoscheme : relative.scheme = []) (hnone : relative.host = []) :
    (base.target middle).target relative = base.target { middle with
      path := Path.resolve middle.path relative.path
      query := relative.query
      fragment := relative.fragment } := by
  simp [target, hscheme, hhost, hnoscheme, hnone, Path.target_resolve hbase]

theorem host_target (hbase : base.host ≠ []) (h : relative.scheme = [] ∨ relative.host ≠ []) :
    (base.target relative).host ≠ [] := by
  by_cases hhost : relative.host = []
  · rw [target_of_path base (h.resolve_right (not_not_intro hhost)) hhost]
    exact hbase
  · by_cases hscheme : relative.scheme = []
    · rw [target_of_host base hscheme hhost]
      exact hhost
    · rw [target_of_scheme base hscheme]
      exact hhost

end UriParts

namespace Uri

open Text

variable {text other third : Text} {base relative middle : Uri}

/-! ## Seen from a host -/

theorem exists_combine_of_scheme (base : Uri) (hrelative : parse other = .ok relative)
    (hscheme : relative.scheme ≠ []) :
    ∃ uri, base.combine relative = .ok uri ∧ parse uri.text = .ok uri ∧
      uri.toUriParts = relative.toUriParts := by
  have hcombine : base.combine relative = .ok relative := by
    simp [combine, isBlank_scheme (wellFormed_of_parse hrelative).scheme hscheme]
  have htext : relative.text = other := by rw [(parse_eq_ok_iff.mp hrelative).2.2.2]
  exact ⟨relative, hcombine, htext ▸ hrelative, rfl⟩

/-- What is seen from a base with a host is read again as the parts that the two come to. -/
theorem exists_combine_of_parse (hbase : parse text = .ok base) (hhost : base.host ≠ [])
    (hrelative : parse other = .ok relative) :
    ∃ uri, base.combine relative = .ok uri ∧ parse uri.text = .ok uri ∧
      uri.toUriParts = base.target relative.toUriParts := by
  by_cases hscheme : relative.scheme = []
  · by_cases hnone : relative.host = []
    · rw [UriParts.target_of_path _ hscheme hnone]
      cases hblank : isBlank relative.path with
      | true =>
        rw [Path.target_of_blank _ hblank]
        exact exists_combine_of_blank hbase hhost hrelative hscheme hnone hblank
      | false =>
        rw [Path.target_of_not_blank _ hblank]
        exact exists_combine_of_path hbase hhost hrelative hscheme hnone hblank
    · rw [UriParts.target_of_host _ hscheme hnone]
      exact exists_combine_of_host hbase hrelative hscheme hnone
  · rw [UriParts.target_of_scheme _ hscheme]
    exact exists_combine_of_scheme base hrelative hscheme

/-! ## Seen from a path -/

/-- A text without two slashes in front has no host. -/
theorem siteOf?_of_not_slashes {front : Text} (h : ¬ ['/', '/'] <+: front) : siteOf? front = none := by
  cases hsite : siteOf? front with
  | none => rfl
  | some site =>
    rw [(siteOf?_eq_some_iff.mp hsite).2, Site.text] at h
    exact absurd ⟨_, rfl⟩ h

/-- A path that is seen from another one is read as a path, if the other one does not begin with
two slashes: what follows them may be read as a host when the last name has given way. -/
theorem IsPathOnly.resolve {base relative : Text} (hbase : IsPathOnly base)
    (hrelative : IsPathOnly relative) (hslashes : ¬ ['/', '/'] <+: base) :
    IsPathOnly (Path.resolve base relative) := by
  rcases Path.resolve_inv base relative with heq | heq | ⟨before, name, rfl, hslash, heq⟩
  · rwa [heq]
  · rwa [heq]
  · rw [heq]
    refine ⟨schemeOf?_append_slash (Or.inr rfl) hbase.scheme relative, ?_⟩
    refine siteOf?_of_not_slashes fun ⟨rest, hrest⟩ => ?_
    -- The second of two slashes in front does not come from the name that is put there.
    cases before with
    | nil =>
      obtain rfl : '/' :: rest = relative := (List.cons.inj hrest).2
      exact hslash rfl
    | cons c before =>
      obtain ⟨rfl, hbehind⟩ := List.cons.inj hrest
      cases before with
      | nil => exact hslashes ⟨name, rfl⟩
      | cons d before =>
        obtain ⟨rfl, -⟩ := List.cons.inj hbehind
        exact hslashes ⟨before ++ '/' :: name, rfl⟩

/-- A path that is seen from another one is read as the two of them resolved. -/
theorem exists_combine_of_paths (hbase : parse text = .ok base) (hscheme : base.scheme = [])
    (hhost : base.host = []) (hslashes : ¬ ['/', '/'] <+: base.path)
    (hrelative : parse other = .ok relative) (hnoscheme : relative.scheme = [])
    (hnone : relative.host = []) :
    ∃ uri, base.combine relative = .ok uri ∧ parse uri.text = .ok uri ∧
      uri.toUriParts = { base.toUriParts with
        path := Path.resolve base.path relative.path
        query := relative.query
        fragment := relative.fragment } := by
  have hwell := wellFormed_of_parse hrelative
  have hwellBase := wellFormed_of_parse hbase
  have hcombine : base.combine relative = ofParts { base.toUriParts with
      path := Path.resolve base.path relative.path
      query := relative.query
      fragment := relative.fragment } := by
    cases hblank : isBlank relative.path <;> simp [combine, hnoscheme, hnone, hblank, Path.resolve]
  have hplain : IsPlain (Path.resolve base.path relative.path) :=
    Path.isPlain_resolve hwellBase.path_isPlain hwell.path_isPlain
  have honly : IsPathOnly (Path.resolve base.path relative.path) :=
    (isPathOnly_of_parse hbase hscheme hhost).resolve (isPathOnly_of_parse hrelative hnoscheme hnone)
      hslashes
  have hparts : UriParts.WellFormed { base.toUriParts with
      path := Path.resolve base.path relative.path
      query := relative.query
      fragment := relative.fragment } :=
    ⟨hwellBase.scheme, hwellBase.host, hwellBase.port_of_host, hplain, absurd hhost, absurd hscheme,
      hwell.query, hwell.fragment⟩
  have hparse := parse_compose_of_isPathOnly hparts hscheme hhost honly
  exact ⟨_, hcombine.trans hparse, hparse, rfl⟩

/-! ## In two steps -/

/-- What is seen from a uri is read again, and behind a host it comes to the parts that the two
come to one after the other. -/
theorem exists_combine_target (hmiddle : parse text = .ok middle)
    (hfirm : middle.host ≠ [] ∨ middle.scheme = [] ∧ ¬ ['/', '/'] <+: middle.path)
    (hrelative : parse other = .ok relative) :
    ∃ uri, middle.combine relative = .ok uri ∧ parse uri.text = .ok uri ∧
      ∀ base : UriParts, IsRooted base.path →
        base.target uri.toUriParts = (base.target middle.toUriParts).target relative.toUriParts := by
  by_cases hhost : middle.host = []
  · obtain ⟨hscheme, hslashes⟩ := hfirm.resolve_left (not_not_intro hhost)
    by_cases hnoscheme : relative.scheme = []
    · by_cases hnone : relative.host = []
      · obtain ⟨uri, huri, htext, hparts⟩ :=
          exists_combine_of_paths hmiddle hscheme hhost hslashes hrelative hnoscheme hnone
        refine ⟨uri, huri, htext, fun base hbase => ?_⟩
        rw [hparts]
        exact (UriParts.target_target_of_paths hbase hscheme hhost hnoscheme hnone).symm
      · obtain ⟨uri, huri, htext, hparts⟩ :=
          exists_combine_of_host hmiddle hrelative hnoscheme hnone
        refine ⟨uri, huri, htext, fun base _ => ?_⟩
        rw [hparts, UriParts.target_of_path base hscheme hhost,
          UriParts.target_of_host _ hnoscheme hnone]
        exact UriParts.target_of_host base hscheme hnone
    · obtain ⟨uri, huri, htext, hparts⟩ := exists_combine_of_scheme middle hrelative hnoscheme
      refine ⟨uri, huri, htext, fun base _ => ?_⟩
      rw [hparts, UriParts.target_of_scheme _ hnoscheme, UriParts.target_of_scheme _ hnoscheme]
  · obtain ⟨uri, huri, htext, hparts⟩ := exists_combine_of_parse hmiddle hhost hrelative
    refine ⟨uri, huri, htext, fun base _ => ?_⟩
    rw [hparts, UriParts.target_target_of_host hhost]

/-- **Resolving in steps.**  A uri that is seen from another one, which is seen from a base with a
host, is found in either order: both always are uris, and they have the same parts. -/
theorem combine_combine_of_parse (hbase : parse text = .ok base) (hhost : base.host ≠ [])
    (hmiddle : parse other = .ok middle)
    (hfirm : middle.host ≠ [] ∨ middle.scheme = [] ∧ ¬ ['/', '/'] <+: middle.path)
    (hrelative : parse third = .ok relative) :
    ∃ first second stepwise atOnce,
      base.combine middle = .ok first ∧ first.combine relative = .ok stepwise ∧
      middle.combine relative = .ok second ∧ base.combine second = .ok atOnce ∧
      stepwise.toUriParts = atOnce.toUriParts := by
  obtain ⟨first, hfirst, hreadFirst, hpartsFirst⟩ := exists_combine_of_parse hbase hhost hmiddle
  obtain ⟨second, hsecond, hreadSecond, htarget⟩ := exists_combine_target hmiddle hfirm hrelative
  have hhostFirst : first.host ≠ [] := by
    rw [hpartsFirst]
    exact UriParts.host_target hhost (hfirm.symm.imp_left And.left)
  obtain ⟨stepwise, hstepwise, -, hparts⟩ :=
    exists_combine_of_parse hreadFirst hhostFirst hrelative
  obtain ⟨atOnce, hatOnce, -, hpartsAtOnce⟩ := exists_combine_of_parse hbase hhost hreadSecond
  refine ⟨first, second, stepwise, atOnce, hfirst, hstepwise, hsecond, hatOnce, ?_⟩
  have hroot := (wellFormed_of_parse hbase).path_isRooted hhost
  rw [hparts, hpartsFirst, hpartsAtOnce, htarget base.toUriParts hroot]

/-- A path that looks like a scheme is put behind the host with a name that looks like a port. -/
theorem combine_combine_of_parse_colon :
    ∃ base middle relative first second stepwise atOnce,
      parse "http://h:80/a/b?q" = .ok base ∧ parse "c:d/e?r" = .ok middle ∧
      parse "f//g:1#z" = .ok relative ∧
      base.combine middle = .ok first ∧ first.combine relative = .ok stepwise ∧
      middle.combine relative = .ok second ∧ base.combine second = .ok atOnce ∧
      stepwise.toUriParts = atOnce.toUriParts ∧ second.path = "c:d/f//g:1".toList ∧
      atOnce.path = "/a/c:d/f//g:1".toList := by
  have hbase : parse "http://h:80/a/b?q" = .ok {
      scheme := "http", host := "h", port := some 80, path := "/a/b", query := "q",
      text := "http://h:80/a/b?q" } := by rfl
  have hmiddle : parse "c:d/e?r" = .ok {
      path := "c:d/e", query := "r", text := "c:d/e?r" } := by rfl
  have hrelative : parse "f//g:1#z" = .ok {
      path := "f//g:1", fragment := "z", text := "f//g:1#z" } := by rfl
  obtain ⟨first, second, stepwise, atOnce, hfirst, hstepwise, hsecond, hatOnce, hparts⟩ :=
    combine_combine_of_parse hbase (by decide) hmiddle (Or.inr ⟨rfl, by decide⟩) hrelative
  refine ⟨_, _, _, first, second, stepwise, atOnce, hbase, hmiddle, hrelative, hfirst, hstepwise,
    hsecond, hatOnce, hparts, ?_, ?_⟩
  · cases hsecond
    rfl
  · cases hsecond
    cases hatOnce
    rfl

/-- Behind two slashes the name of a relative path is taken for a host once the two are joined. -/
theorem combine_of_slashes :
    ∃ base middle relative first second stepwise atOnce,
      parse "http://h/a" = .ok base ∧ parse "//b:123456" = .ok middle ∧
      parse "c" = .ok relative ∧
      base.combine middle = .ok first ∧ first.combine relative = .ok stepwise ∧
      middle.combine relative = .ok second ∧ base.combine second = .ok atOnce ∧
      stepwise.host = "h".toList ∧ stepwise.path = "//c".toList ∧
      atOnce.host = "c".toList ∧ atOnce.path = [] :=
  ⟨{ scheme := "http", host := "h", path := "/a", text := "http://h/a" },
    { path := "//b:123456", text := "//b:123456" },
    { path := "c", text := "c" },
    { scheme := "http", host := "h", path := "//b:123456", text := "http://h//b:123456" },
    { host := "c", text := "//c" },
    { scheme := "http", host := "h", path := "//c", text := "http://h//c" },
    { scheme := "http", host := "c", text := "http://c" },
    rfl, rfl, rfl, rfl, rfl, rfl, rfl, rfl, rfl, rfl, rfl⟩

end Uri
end OutboundHttp
