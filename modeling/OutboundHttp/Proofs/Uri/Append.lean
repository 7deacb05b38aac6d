import OutboundHttp.Proofs.Uri.Resolve

/-!
# A path behind the path of a uri

A path that is put behind that of a uri leaves all other parts of the uri alone when there is
something to hold it in its place: a host, or a path that is not blank
(`exists_appendPath_of_host`, `exists_appendPath_of_hostless`).  Where nothing but a scheme stands
in front of it, the path may be read as more than a path.  `appendPath_of_parse` says exactly when
that is so: the uri has a scheme and the path does not begin with a slash, or the path is a uri
with a scheme or a host of its own.  Behind a host, where this cannot be, two paths come to the same
one after the other as joined (`appendPath_append`).
-/
namespace OutboundHttp
namespace Uri

open Text

/-! ## Rooted texts -/

theorem IsRooted.of_append {path rest : Text} (h : IsRooted (path ++ rest)) : IsRooted path := by
  cases path with
  | nil => exact Or.inl rfl
  | cons c path => exact Or.inr (h.resolve_left (List.cons_ne_nil _ _))

theorem IsRooted.append {path rest : Text} (hpath : IsRooted path) (hrest : IsRooted rest) :
    IsRooted (path ++ rest) := by
  rcases hpath with rfl | hslash
  · exact hrest
  · cases path with
    | nil => cases hslash
    | cons c path => exact Or.inr hslash

theorem isRooted_of_slashes {run : Text} (h : ∀ c ∈ run, (c == '/') = true) : IsRooted run := by
  cases run with
  | nil => exact Or.inl rfl
  | cons c run =>
    have hc : c = '/' := beq_iff_eq.mp (h c List.mem_cons_self)
    exact Or.inr (congrArg some hc)

theorem not_isRooted_append {scheme : Text} (hletters : ∀ c ∈ scheme, isLetter c)
    (hne : scheme ≠ []) (rest : Text) : ¬ IsRooted (scheme ++ rest) := by
  intro hroot
  have hstop : Stops isLetter scheme := hroot.of_append.stops (by decide)
  cases scheme with
  | nil => exact hne rfl
  | cons c scheme =>
    have hc := hletters c List.mem_cons_self
    rw [stops_cons.mp hstop] at hc
    cases hc

theorem slash_not_mem_of_cls {cls : Char → Bool} {text : Text} (h : ∀ c ∈ text, cls c)
    (hcls : cls '/' = false) : '/' ∉ text := by
  intro hmem
  have hslash := h '/' hmem
  rw [hcls] at hslash
  cases hslash

theorem Site.WellFormed.slash_not_mem {site : Site} (h : site.WellFormed) :
    '/' ∉ site.host ++ introduced ':' site.port := by
  have hhost : '/' ∉ site.host := by
    rcases h.host with ⟨-, hchars⟩ | ⟨address, -, haddress, hbrackets⟩
    · exact slash_not_mem_of_cls hchars (by decide)
    · have hinside : '/' ∉ address := slash_not_mem_of_cls haddress (by decide)
      rw [hbrackets]
      simp [hinside]
  have hport : '/' ∉ introduced ':' site.port := by
    cases hdigits : site.port with
    | none => exact List.not_mem_nil
    | some digits =>
      have hchars : '/' ∉ digits :=
        slash_not_mem_of_cls (h.port digits hdigits).2.2 (by decide)
      simp [introduced, hchars]
  simp [hhost, hport]

/-! ## Texts that are read as a path -/

/-- Neither a scheme nor a host is read from the text. -/
structure IsPathOnly (front : Text) : Prop where
  scheme : schemeOf? front = none
  site : siteOf? front = none

theorem IsPathOnly.front_eq {front : Text} (h : IsPathOnly front) :
    Front.ofText front = ⟨[], [], none, front⟩ := by
  rw [Front.ofText_of_no_scheme h.scheme, Front.behind_of_no_site h.site]

theorem isPathOnly_of_front {front : Text} (hscheme : (Front.ofText front).scheme = [])
    (hhost : (Front.ofText front).host = []) : IsPathOnly front := by
  have hnone : schemeOf? front = none := by
    cases hsplit : schemeOf? front with
    | none => rfl
    | some split =>
      obtain ⟨scheme, rest⟩ := split
      have hne := (schemeOf?_eq_some_iff.mp hsplit).1
      rw [Front.ofText_of_scheme hsplit] at hscheme
      refine absurd ?_ hne
      cases hsite : siteOf? rest with
      | none => rwa [Front.behind_of_no_site hsite] at hscheme
      | some site => rwa [Front.behind_of_site hsite] at hscheme
  refine ⟨hnone, ?_⟩
  cases hsite : siteOf? front with
  | none => rfl
  | some site =>
    rw [Front.ofText_of_no_scheme hnone, Front.behind_of_site hsite] at hhost
    exact absurd hhost (siteOf?_eq_some_iff.mp hsite).1.host.ne_nil

/-- A scheme in front of a slash was there before, if a slash or nothing stood in the same place. -/
theorem schemeOf?_append_slash {before tail : Text} (htail : IsRooted tail)
    (h : schemeOf? (before ++ tail) = none) (rest : Text) :
    schemeOf? (before ++ '/' :: rest) = none := by
  cases hsplit : schemeOf? (before ++ '/' :: rest) with
  | none => rfl
  | some split =>
    exfalso
    obtain ⟨scheme, behind⟩ := split
    obtain ⟨hne, hletters, hroot, htext⟩ := schemeOf?_eq_some_iff.mp hsplit
    have hslash : '/' ∉ scheme ++ [':'] := by
      have hscheme : '/' ∉ scheme := slash_not_mem_of_cls hletters (by decide)
      simp [hscheme]
    have hfront : scheme ++ ':' :: behind = (scheme ++ [':']) ++ behind := by simp
    rw [hfront] at htext
    -- The colon stands in front of the slash, so the scheme is read whatever the slash is part of.
    obtain ⟨middle, rfl, rfl⟩ := exists_of_append_cons_eq hslash htext
    have hbehind : IsRooted (middle ++ tail) := hroot.of_append.append htail
    have hscheme : schemeOf? (scheme ++ [':'] ++ middle ++ tail) = some (scheme, middle ++ tail) :=
      schemeOf?_eq_some_iff.mpr ⟨hne, hletters, hbehind, by simp⟩
    rw [h] at hscheme
    cases hscheme

/-- A scheme in front of the slash that was put behind a path was there before. -/
theorem schemeOf?_trimEnd_append {base : Text} (h : schemeOf? base = none) (rest : Text) :
    schemeOf? (trimEnd (· == '/') base ++ '/' :: rest) = none := by
  obtain ⟨run, hbase, hrun, -⟩ := exists_trimEnd (· == '/') base
  rw [hbase] at h
  exact schemeOf?_append_slash (isRooted_of_slashes hrun) h rest

/-- A host in front of the slash that was put behind a path was there before. -/
theorem siteOf?_trimEnd_append {base rest : Text} (h : siteOf? base = none)
    (hrest : Stops (· == '/') rest) :
    siteOf? (trimEnd (· == '/') base ++ '/' :: rest) = none := by
  cases hsite : siteOf? (trimEnd (· == '/') base ++ '/' :: rest) with
  | none => rfl
  | some site =>
    exfalso
    obtain ⟨hwell, htext⟩ := siteOf?_eq_some_iff.mp hsite
    obtain ⟨run, hbase, hrun, hlast⟩ := exists_trimEnd (· == '/') base
    rw [Site.text] at htext
    -- The two slashes of the host stand where the path does, or its last character is one of them.
    cases htrim : trimEnd (· == '/') base with
    | nil =>
      rw [htrim] at htext
      rw [(List.cons.inj htext).2] at hrest
      exact absurd hrest (by simp)
    | cons c before =>
      rw [htrim] at htext hlast hbase
      have hc : c = '/' := (List.cons.inj htext).1
      subst hc
      cases before with
      | nil => exact absurd (hlast '/' rfl) (by decide)
      | cons d before =>
        simp only [List.cons_append, List.cons.injEq, ← List.append_assoc, true_and] at htext
        obtain ⟨rfl, htext⟩ := htext
        obtain ⟨middle, rfl, hpath⟩ := exists_of_append_cons_eq hwell.slash_not_mem htext
        -- Slashes may follow a host, so those that were trimmed away do not hide it.
        have hroot := hwell.path
        rw [hpath] at hroot
        have hfound : siteOf? base = some { site with path := middle ++ run } := by
          refine siteOf?_eq_some_iff.mpr ⟨⟨hwell.host, hwell.port, ?_⟩, ?_⟩
          · exact hroot.of_append.append (isRooted_of_slashes hrun)
          · rw [hbase, Site.text]
            simp
        rw [h] at hfound
        cases hfound

/-- **What is put behind a path that is not blank** is read as part of the path. -/
theorem IsPathOnly.append {base : Text} (h : IsPathOnly base) (hblank : isBlank base = false)
    (relative : Text) : IsPathOnly (Path.append base relative) := by
  cases hrelative : isBlank relative with
  | true =>
    rw [Path.append_of_blank base hrelative]
    exact h
  | false =>
    rw [Path.append_of_not_blank hblank hrelative]
    exact ⟨schemeOf?_trimEnd_append h.scheme _,
      siteOf?_trimEnd_append h.site (stops_dropWhile (· == '/') relative)⟩

variable {text path : Text} {uri : Uri}

/-! ## With something in front -/

theorem exists_appendPath_of_host (h : parse text = .ok uri) (hhost : uri.host ≠ [])
    (hpath : IsPlain path) : ∃ changed, uri.appendPath path = .ok changed ∧
      changed.toUriParts = { uri.toUriParts with
        path := UriParts.writtenPath { uri.toUriParts with path := Path.append uri.path path } } := by
  have hwell := wellFormed_of_parse h
  have horigin : UriParts.HasOrigin { uri.toUriParts with path := Path.append uri.path path } :=
    ⟨hwell.scheme, hwell.host.resolve_left hhost⟩
  have hplain : IsPlain (Path.append uri.path path) := Path.isPlain_append hwell.path_isPlain hpath
  obtain ⟨changed, hchanged, -, hparts⟩ := horigin.exists_ofParts rfl
    (UriParts.isPlain_writtenPath hplain) hwell.query hwell.fragment
  exact ⟨changed, hchanged, hparts⟩

/-- Where there is neither a scheme nor a host, all that is read is the path. -/
theorem isPathOnly_of_parse (h : parse text = .ok uri) (hscheme : uri.scheme = [])
    (hhost : uri.host = []) : IsPathOnly uri.path := by
  have horigin : uri.origin = [] := by
    rw [UriParts.origin, hscheme, hhost]
    rfl
  have hfront := front_of_parse h
  rw [horigin, List.nil_append] at hfront
  exact isPathOnly_of_front (by rw [hfront, hscheme]) (by rw [hfront, hhost])

/-- Without scheme and host the parts are read again, if all of the path is read as one. -/
theorem parse_compose_of_isPathOnly {parts : UriParts} (h : parts.WellFormed)
    (hscheme : parts.scheme = []) (hhost : parts.host = []) (honly : IsPathOnly parts.path) :
    parse parts.compose = .ok { toUriParts := parts, text := parts.compose } := by
  refine parse_compose_of_front h ?_
  have hport : parts.port = none := h.port_of_host hhost
  simp only [UriParts.origin, UriParts.portDigits, hscheme, hhost, hport]
  exact honly.front_eq

theorem exists_appendPath_of_hostless (h : parse text = .ok uri) (hhost : uri.host = [])
    (hpath : IsPlain path) (hkept : isBlank uri.path = false ∨ isBlank path = true) :
    ∃ changed, uri.appendPath path = .ok changed ∧
      changed.toUriParts = { uri.toUriParts with path := Path.append uri.path path } := by
  have hwell := wellFormed_of_parse h
  by_cases hblank : isBlank path = true
  · rw [appendPath, ofParts, Path.append_of_blank uri.path hblank]
    exact ⟨_, parse_compose h, rfl⟩
  · have hbase : isBlank uri.path = false := hkept.resolve_right hblank
    -- A scheme without a host has no path behind it.
    have hscheme : uri.scheme = [] := by
      by_cases hempty : uri.scheme = []
      · exact hempty
      · rw [hwell.path_of_scheme hempty hhost] at hbase
        cases hbase
    have hplain : IsPlain (Path.append uri.path path) :=
      Path.isPlain_append hwell.path_isPlain hpath
    have hwith : UriParts.WellFormed { uri.toUriParts with path := Path.append uri.path path } :=
      ⟨hwell.scheme, hwell.host, hwell.port_of_host, hplain, absurd hhost, absurd hscheme,
        hwell.query, hwell.fragment⟩
    have honly := (isPathOnly_of_parse h hscheme hhost).append hbase path
    exact ⟨_, parse_compose_of_isPathOnly hwith hscheme hhost honly, rfl⟩

/-! ## With nothing but a scheme in front -/

/-- A plain text is read as what stands in front of a query. -/
theorem parse_eq_ok_iff_of_isPlain (hplain : IsPlain text) :
    parse text = .ok uri ↔ ¬ (Front.ofText text).IsHostless ∧ (Front.ofText text).PortFits ∧
      uri = { toUriParts := Sections.parts ⟨text, none, none⟩, text := text } := by
  have hsections : Sections.ofText text = ⟨text, none, none⟩ := by
    have hcut := Sections.ofText_append hplain []
    rw [List.append_nil] at hcut
    rw [hcut]
    simp [Sections.push, Sections.ofText, cutFirst_of_not_mem]
  have hunbroken := unbroken_of_noBreak (isPlain_iff.mp hplain).2.2
  rw [hsections] at hunbroken
  simp only [parse_eq_ok_iff, hsections, hunbroken, true_and]

/-- The scheme and the host that are read from a plain text. -/
theorem exists_parse_iff_of_isPlain (hplain : IsPlain text) {P : Text → Text → Prop} :
    (∃ other, parse text = .ok other ∧ P other.scheme other.host) ↔
      ¬ (Front.ofText text).IsHostless ∧ (Front.ofText text).PortFits ∧
        P (Front.ofText text).scheme (Front.ofText text).host := by
  simp only [parse_eq_ok_iff_of_isPlain hplain]
  constructor
  · rintro ⟨other, ⟨hhostless, hfits, rfl⟩, hP⟩
    exact ⟨hhostless, hfits, hP⟩
  · rintro ⟨hhostless, hfits, hP⟩
    exact ⟨_, ⟨hhostless, hfits, rfl⟩, hP⟩

theorem isPathOnly_of_not_isRooted {scheme : Text} (hscheme : ∀ c ∈ scheme, isLetter c)
    (hne : scheme ≠ []) (hroot : ¬ IsRooted path) : IsPathOnly (scheme ++ ':' :: path) := by
  constructor
  · have hstop : Stops isLetter (':' :: path) := stops_cons.mpr (by decide)
    simp only [schemeOf?, takeWhile_append_of_stops hscheme hstop,
      dropWhile_append_of_stops hscheme hstop]
    exact if_neg fun h => hroot h.2
  · cases hsite : siteOf? (scheme ++ ':' :: path) with
    | none => rfl
    | some site =>
      have hslash : IsRooted (scheme ++ ':' :: path) := by
        rw [(siteOf?_eq_some_iff.mp hsite).2]
        exact Or.inr rfl
      exact absurd hslash (not_isRooted_append hscheme hne _)

theorem schemeOf?_of_isRooted (hroot : IsRooted path) : schemeOf? path = none := by
  cases hsplit : schemeOf? path with
  | none => rfl
  | some split =>
    obtain ⟨scheme, rest⟩ := split
    obtain ⟨hne, hletters, -, rfl⟩ := schemeOf?_eq_some_iff.mp hsplit
    exact absurd hroot (not_isRooted_append hletters hne _)

/-- A path behind a scheme, or behind nothing, is a uri with another scheme or with a host if a
slash is missing between the two, or if the path alone is a uri with a scheme or a host. -/
theorem exists_parse_schemeText_iff {scheme : Text} (hscheme : ∀ c ∈ scheme, isLetter c)
    (hpath : IsPlain path) (hne : path ≠ []) :
    (∃ other, parse (schemeText scheme ++ path) = .ok other ∧
        ¬ (other.scheme = scheme ∧ other.host = [])) ↔
      scheme ≠ [] ∧ ¬ IsRooted path ∨
        ∃ other, parse path = .ok other ∧ (other.scheme ≠ [] ∨ other.host ≠ []) := by
  by_cases hempty : scheme = []
  · subst hempty
    simp [schemeText, Decidable.imp_iff_not_or]
  have htext : schemeText scheme ++ path = scheme ++ ':' :: path := by
    rw [schemeText, if_neg hempty, List.append_assoc, List.singleton_append]
  have hplain : IsPlain (scheme ++ ':' :: path) := by
    have hletters : IsPlain scheme := isPlain_of_cls hscheme (by decide)
    simp [hletters, hpath]
  rw [htext, exists_parse_iff_of_isPlain hplain
      (P := fun found host => ¬ (found = scheme ∧ host = [])),
    exists_parse_iff_of_isPlain hpath (P := fun found host => found ≠ [] ∨ host ≠ [])]
  by_cases hroot : IsRooted path
  · -- With the slash the scheme is found, and only a host keeps the uri from being refused.
    have hsplit : schemeOf? (scheme ++ ':' :: path) = some (scheme, path) :=
      schemeOf?_eq_some_iff.mpr ⟨hempty, hscheme, hroot, rfl⟩
    rw [Front.ofText_of_scheme hsplit, Front.ofText_of_no_scheme (schemeOf?_of_isRooted hroot)]
    cases hsite : siteOf? path with
    | none =>
      rw [Front.behind_of_no_site hsite, Front.behind_of_no_site hsite]
      simp [Front.IsHostless, hempty, hne, hroot]
    | some site =>
      have hhost := (siteOf?_eq_some_iff.mp hsite).1.host.ne_nil
      rw [Front.behind_of_site hsite, Front.behind_of_site hsite]
      simp [Front.IsHostless, Front.PortFits, hhost, hroot]
  · -- Without it all of the text is a path, so the scheme is lost.
    rw [(isPathOnly_of_not_isRooted hscheme hempty hroot).front_eq]
    simp [Front.IsHostless, Front.PortFits, hempty, hroot, Ne.symm hempty]

/-- Where there is no host, the path is read with the scheme in front of it and without regard to
query and fragment. -/
theorem ofParts_eq_ok_iff_of_hostless {parts : UriParts} (hscheme : ∀ c ∈ parts.scheme, isLetter c)
    (hhost : parts.host = []) (hpath : IsPlain parts.path) (hquery : IsQuery parts.query)
    (hfragment : '\n' ∉ parts.fragment) :
    ofParts parts = .ok uri ↔
      ∃ other, parse (schemeText parts.scheme ++ parts.path) = .ok other ∧
        uri = { other with
          query := parts.query
          fragment := parts.fragment
          text := parts.compose } := by
  have horigin : parts.origin = schemeText parts.scheme := by
    rw [UriParts.origin, hhost, hostText, if_pos rfl, List.append_nil]
  have hwritten : parts.writtenPath = parts.path := if_neg fun h => h.1 hhost
  have hplain : IsPlain (schemeText parts.scheme ++ parts.path) := by
    rw [← horigin]
    exact isPlain_append.mpr ⟨UriParts.isPlain_origin hscheme (Or.inl hhost), hpath⟩
  have hsections : Sections.ofText parts.compose =
      ⟨schemeText parts.scheme ++ parts.path, nonEmpty? parts.query, nonEmpty? parts.fragment⟩ := by
    rw [UriParts.compose_eq hscheme (Or.inl hhost), UriParts.tail, hwritten, horigin,
      ← List.append_assoc]
    exact sections_of_parts hplain hquery
  have hunbroken := unbroken_of_parts hplain hquery hfragment
  rw [ofParts, parse_eq_ok_iff, hsections]
  simp only [hunbroken, true_and]
  constructor
  · rintro ⟨hhostless, hfits, rfl⟩
    refine ⟨_, (parse_eq_ok_iff_of_isPlain hplain).mpr ⟨hhostless, hfits, rfl⟩, ?_⟩
    simp only [Sections.parts, nonEmpty?_getD]
  · rintro ⟨other, hother, rfl⟩
    obtain ⟨hhostless, hfits, rfl⟩ := (parse_eq_ok_iff_of_isPlain hplain).mp hother
    refine ⟨hhostless, hfits, ?_⟩
    simp only [Sections.parts, nonEmpty?_getD]

/-- A uri that has the scheme that was written in front of a path, and no host, has this path. -/
theorem eq_of_parse_schemeText {scheme : Text} {other : Uri} (hplain : IsPlain (schemeText scheme ++ path))
    (hother : parse (schemeText scheme ++ path) = .ok other) (hscheme : other.scheme = scheme)
    (hhost : other.host = []) : other.port = none ∧ other.path = path := by
  refine ⟨(wellFormed_of_parse hother).port_of_host hhost, ?_⟩
  obtain ⟨-, -, rfl⟩ := (parse_eq_ok_iff_of_isPlain hplain).mp hother
  have htext := Front.text_ofText (schemeText scheme ++ path)
  simp only [Sections.parts] at hscheme hhost ⊢
  rw [Front.text, hscheme, hostText, if_pos hhost] at htext
  exact List.append_cancel_left htext

theorem appendPath_of_bare (h : parse text = .ok uri) (hhost : uri.host = [])
    (hbase : isBlank uri.path = true) (hblank : isBlank path = false) (hpath : IsPlain path) :
    (∀ changed, uri.appendPath path = .ok changed →
        changed.toUriParts = { uri.toUriParts with path := path }) ↔
      ¬ (uri.scheme ≠ [] ∧ ¬ IsRooted path ∨
        ∃ other, parse path = .ok other ∧ (other.scheme ≠ [] ∨ other.host ≠ [])) := by
  have hwell := wellFormed_of_parse h
  have hne := ne_nil_of_isBlank_eq_false hblank
  have happend : uri.appendPath path = ofParts { uri.toUriParts with path := path } := by
    rw [appendPath, Path.append_of_blank_base hbase hblank]
  have hok (changed : Uri) := @ofParts_eq_ok_iff_of_hostless changed
    { uri.toUriParts with path := path } hwell.scheme hhost hpath hwell.query hwell.fragment
  have hplain : IsPlain (schemeText uri.scheme ++ path) := by
    have hscheme : IsPlain (schemeText uri.scheme) := by
      have horigin := UriParts.isPlain_origin hwell.scheme hwell.host
      exact (isPlain_append.mp horigin).1
    exact isPlain_append.mpr ⟨hscheme, hpath⟩
  rw [← exists_parse_schemeText_iff hwell.scheme hpath hne, happend]
  constructor
  · rintro hkeep ⟨other, hother, hdiffers⟩
    have hparts := hkeep _ ((hok _).mpr ⟨other, hother, rfl⟩)
    have hscheme := congrArg UriParts.scheme hparts
    have hnohost := congrArg UriParts.host hparts
    exact hdiffers ⟨hscheme, hnohost.trans hhost⟩
  · intro hnone changed hchanged
    obtain ⟨other, hother, rfl⟩ := (hok changed).mp hchanged
    obtain ⟨hscheme, hnohost⟩ : other.scheme = uri.scheme ∧ other.host = [] :=
      Decidable.byContradiction fun hdiffers => hnone ⟨other, hother, hdiffers⟩
    obtain ⟨hport, hfound⟩ := eq_of_parse_schemeText hplain hother hscheme hnohost
    simp only [hscheme, hnohost, hport, hfound, hhost, hwell.port_of_host hhost]

/-! ## In any place -/

/-- A path that is put behind a uri is read as more than a path: there is neither a host nor a path
in front of it, and it lacks the slash that has to follow a scheme, or it is a uri with a scheme or
a host of its own. -/
def IsRecastBy (uri : Uri) (path : Text) : Prop :=
  uri.host = [] ∧ isBlank uri.path = true ∧ isBlank path = false ∧
    (uri.scheme ≠ [] ∧ ¬ IsRooted path ∨
      ∃ other, parse path = .ok other ∧ (other.scheme ≠ [] ∨ other.host ≠ []))

/-- There is something that holds a path in its place: a host, a path in front of it, or nothing
that is put there. -/
def Holds (uri : Uri) (path : Text) : Prop :=
  uri.host ≠ [] ∨ isBlank uri.path = false ∨ isBlank path = true

theorem Holds.not_isRecastBy (h : uri.Holds path) : ¬ uri.IsRecastBy path := by
  rintro ⟨hhost, hbase, hblank, -⟩
  rcases h with h | h | h
  · exact h hhost
  · rw [hbase] at h
    cases h
  · rw [hblank] at h
    cases h

theorem exists_appendPath_of_holds (h : parse text = .ok uri) (hpath : IsPlain path)
    (hholds : uri.Holds path) : ∃ changed, uri.appendPath path = .ok changed ∧
      changed.toUriParts = { uri.toUriParts with
        path := UriParts.writtenPath { uri.toUriParts with path := Path.append uri.path path } } := by
  by_cases hhost : uri.host = []
  · have hwritten : UriParts.writtenPath { uri.toUriParts with path := Path.append uri.path path } =
        Path.append uri.path path := if_neg fun hnot => hnot.1 hhost
    rw [hwritten]
    exact exists_appendPath_of_hostless h hhost hpath (hholds.resolve_left (not_not_intro hhost))
  · exact exists_appendPath_of_host h hhost hpath

/-- **A plain path behind that of a uri** either gives no uri or one that differs in its path only,
which is the two joined, with a slash in front of it if it follows a host; exactly those paths are
the exception that recast the uri.  Where something holds the path there always is a uri. -/
theorem appendPath_of_parse (h : parse text = .ok uri) (hpath : IsPlain path) :
    ((∀ changed, uri.appendPath path = .ok changed →
        changed.toUriParts = { uri.toUriParts with
          path := UriParts.writtenPath { uri.toUriParts with
            path := Path.append uri.path path } }) ↔
      ¬ uri.IsRecastBy path) ∧
      (uri.Holds path → ∃ changed, uri.appendPath path = .ok changed) := by
  by_cases hholds : uri.Holds path
  · obtain ⟨changed, hchanged, hparts⟩ := exists_appendPath_of_holds h hpath hholds
    refine ⟨⟨fun _ => hholds.not_isRecastBy, fun _ other hother => ?_⟩, fun _ => ⟨changed, hchanged⟩⟩
    rw [hchanged] at hother
    cases hother
    exact hparts
  · obtain ⟨hhost, hbase, hblank⟩ :
        uri.host = [] ∧ isBlank uri.path = true ∧ isBlank path = false := by
      simpa [Holds] using hholds
    have hwritten : UriParts.writtenPath { uri.toUriParts with path := path } = path :=
      if_neg fun hnot => hnot.1 hhost
    have hbare := appendPath_of_bare h hhost hbase hblank hpath
    rw [Path.append_of_blank_base hbase hblank, hwritten, hbare]
    refine ⟨?_, fun hany => absurd hany hholds⟩
    simp [IsRecastBy, hhost, hbase, hblank]

/-- A path that looks like an authority but for its port keeps one that looks like another behind
it in its place. -/
theorem appendPath_of_parse_authority :
    ∃ uri changed, parse "//h:123456?q#f" = .ok uri ∧ uri.appendPath "//other:80" = .ok changed ∧
      changed.scheme = [] ∧ changed.host = [] ∧ changed.port = none ∧
      changed.path = "//h:123456/other:80".toList ∧ changed.query = "q".toList ∧
      changed.fragment = "f".toList := by
  have hparse : parse "//h:123456?q#f" = .ok {
      path := "//h:123456", query := "q", fragment := "f", text := "//h:123456?q#f" } := by
    rfl
  have hplain : IsPlain "//other:80" := by decide
  obtain ⟨hkeeps, hexists⟩ := appendPath_of_parse hparse hplain
  obtain ⟨changed, hchanged⟩ := hexists (Or.inr (Or.inl (by decide)))
  have hparts := hkeeps.mpr (fun hrecast => absurd hrecast.2.1 (by decide)) changed hchanged
  refine ⟨_, changed, hparse, hchanged, ?_⟩
  rw [hparts]
  exact ⟨rfl, rfl, rfl, by decide, rfl, rfl⟩

/-- A path without a slash takes the scheme in front of it for a part of itself, and one with two
slashes brings a host; neither fails. -/
theorem appendPath_of_scheme :
    (∃ uri changed, parse "a:?q" = .ok uri ∧ IsPlain "x" ∧ uri.appendPath "x" = .ok changed ∧
      uri.scheme = "a".toList ∧ changed.scheme = [] ∧ changed.path = "a:x".toList) ∧
      ∃ uri changed, parse "?q" = .ok uri ∧ IsPlain "//other/x" ∧
        uri.appendPath "//other/x" = .ok changed ∧
        uri.host = [] ∧ changed.host = "other".toList ∧ changed.path = "/x".toList := by
  refine ⟨⟨{ scheme := "a", query := "q", text := "a:?q" },
    { path := "a:x", query := "q", text := "a:x?q" }, ?_⟩,
    { query := "q", text := "?q" },
    { host := "other", path := "/x", query := "q", text := "//other/x?q" }, ?_⟩
  · exact ⟨rfl, by decide, rfl, rfl, rfl, rfl⟩
  · exact ⟨rfl, by decide, rfl, rfl, rfl, rfl⟩

end Uri

namespace UriParts

open Text Uri

variable {parts : UriParts}

/-! ## One path after the other -/

/-- The slash that is written between a host and a path does not change what is put behind the
path. -/
theorem writtenPath_append_writtenPath (hhost : parts.host ≠ [])
    (hpath : IsRooted parts.path ∨ isBlank parts.path = false) (relative : Text) :
    writtenPath { parts with path := Path.append parts.writtenPath relative } =
      writtenPath { parts with path := Path.append parts.path relative } := by
  by_cases hroot : IsRooted parts.path
  · rw [writtenPath_of_isRooted hroot]
  · have hblank : isBlank parts.path = false := hpath.resolve_left hroot
    have hwritten : parts.writtenPath = '/' :: parts.path := if_pos ⟨hhost, hroot⟩
    have hnot : ¬ IsRooted (Path.append parts.path relative) :=
      Path.not_isRooted_append hroot hblank relative
    rw [hwritten, Path.append_slash_cons hroot hblank, writtenPath_of_isRooted (Or.inr rfl),
      writtenPath, if_pos ⟨hhost, hnot⟩]

theorem compose_append_writtenPath (hscheme : ∀ c ∈ parts.scheme, isLetter c)
    (hhost : IsHost parts.host) (hpath : IsRooted parts.path ∨ isBlank parts.path = false)
    (relative : Text) :
    compose { parts with path := Path.append parts.writtenPath relative } =
      compose { parts with path := Path.append parts.path relative } := by
  have hcompose (path : Text) :
      compose { parts with path := path } = parts.origin ++ tail { parts with path := path } :=
    @compose_eq { parts with path := path } hscheme (Or.inr hhost)
  rw [hcompose, hcompose, tail, tail, writtenPath_append_writtenPath hhost.ne_nil hpath]

end UriParts

namespace Uri

open Text

variable {text path : Text} {uri through : Uri}

/-- What is put behind a path that was put behind a uri with a host is put behind the two of them
joined. -/
theorem appendPath_eq_of_host (h : parse text = .ok uri) (hhost : uri.host ≠ [])
    (hthrough : through.toUriParts = { uri.toUriParts with
      path := UriParts.writtenPath { uri.toUriParts with path := Path.append uri.path path } })
    (relative : Text) :
    through.appendPath relative = uri.appendPath (Path.append path relative) := by
  have hwell := wellFormed_of_parse h
  have hkept : IsRooted (Path.append uri.path path) ∨
      isBlank (Path.append uri.path path) = false := by
    cases hblank : isBlank path with
    | true =>
      rw [Path.append_of_blank uri.path hblank]
      exact Or.inl (hwell.path_isRooted hhost)
    | false => exact Or.inr (Path.isBlank_append hblank)
  have hcompose := @UriParts.compose_append_writtenPath
    { uri.toUriParts with path := Path.append uri.path path } hwell.scheme
    (hwell.host.resolve_left hhost) hkept relative
  rw [appendPath, appendPath, hthrough, ← Path.append_assoc]
  exact congrArg parse hcompose

/-- **Paths are joined in either order, and so they are behind a uri with a host.**  A path that is
put behind what a path was put behind gives the uri that the two of them give when they are joined
first.  There always is one. -/
theorem appendPath_append :
    (∀ front middle back : Text,
      Path.append (Path.append front middle) back = Path.append front (Path.append middle back)) ∧
    ∀ {text : Text} {uri : Uri}, parse text = .ok uri → uri.host ≠ [] →
      ∀ {first second : Text}, IsPlain first → IsPlain second →
        ∃ through there, uri.appendPath first = .ok through ∧
          through.appendPath second = .ok there ∧
          uri.appendPath (Path.append first second) = .ok there := by
  refine ⟨Path.append_assoc, fun {text uri} h hhost {first second} hfirst hsecond => ?_⟩
  obtain ⟨through, hthrough, hparts⟩ := exists_appendPath_of_host h hhost hfirst
  obtain ⟨there, hthere, -⟩ :=
    exists_appendPath_of_host h hhost (Path.isPlain_append hfirst hsecond)
  refine ⟨through, there, hthrough, ?_, hthere⟩
  rw [appendPath_eq_of_host h hhost hparts, hthere]

/-- Slashes and a blank on either side of the seam, behind a host without a path. -/
theorem appendPath_append_slashes :
    ∃ uri through there, parse "http://h:80?q#f" = .ok uri ∧ uri.appendPath " a//" = .ok through ∧
      through.appendPath "//b" = .ok there ∧
      uri.appendPath (Path.append " a//" "//b") = .ok there ∧
      through.path = "/ a//".toList ∧ there.text = "http://h:80/ a/b?q#f".toList := by
  have hparse : parse "http://h:80?q#f" = .ok {
      scheme := "http", host := "h", port := some 80, query := "q", fragment := "f",
      text := "http://h:80?q#f" } := by rfl
  have hfirst : IsPlain " a//" := by decide
  have hsecond : IsPlain "//b" := by decide
  obtain ⟨through, there, hthrough, hthere, hatOnce⟩ :=
    appendPath_append.2 hparse (by decide) hfirst hsecond
  refine ⟨_, through, there, hparse, hthrough, hthere, hatOnce, ?_, ?_⟩
  · cases hthrough
    rfl
  · cases hatOnce
    rfl

end Uri
end OutboundHttp
