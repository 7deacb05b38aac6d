import OutboundHttp.Proofs.Uri.PathPattern

/-!
# The grammar read from left to right

The grammar of uris is matched with preferences: a scheme before none, a host before
none, a longer run before a shorter one.  The parts that come after the host can be
matched in one way at most, and so can the scheme and the host where they are taken at
all.  Hence only two preferences matter, and the grammar captures what the reading
without going back finds (`captures?_grammar`).
-/
namespace OutboundHttp
namespace Uri

open Pattern Text

variable {limit : Nat} {place : Place Part} {parts : List (Part × Text)}

/-! ## The parts of the grammar -/

/-- What may stand behind the host. -/
def tailPattern : Pattern Part :=
  both (optional (capture .path pathPattern)) <| both (optional queryPattern) <|
    both (optional fragmentPattern) atEnd

/-- What may stand behind the scheme. -/
def hierarchyPattern : Pattern Part :=
  both (optional authorityPattern) tailPattern

theorem grammar_eq :
    grammar = both atStart (both (optional schemePattern) hierarchyPattern) := rfl

/-- A part that counts as captured if it is not empty. -/
def captured (name : Part) (text : Text) : List (Part × Text) :=
  if text = [] then [] else [(name, text)]

/-- What the grammar captures in the sections behind the front. -/
def Sections.captures (s : Sections) : List (Part × Text) :=
  s.fragment.toList.map (Part.fragment, ·) ++ s.query.toList.map (Part.query, ·)

/-- What the grammar captures in the front. -/
def Front.captures (front : Front) : List (Part × Text) :=
  captured .path front.path ++ (front.port.toList.map (Part.port, ·) ++
    (captured .host front.host ++ captured .scheme front.scheme))

theorem Front.captures_behind (scheme rest : Text) :
    (Front.behind scheme rest).captures =
      (Front.behind [] rest).captures ++ captured .scheme scheme := by
  unfold Front.behind Front.captures
  split <;> simp [captured]

/-! ## The tail -/

theorem mem_atEnd {after : Place Part} :
    after ∈ atEnd.placesFrom limit place ↔ place.rest = [] ∧ after = place := by
  rw [placesFrom]
  split <;> simp_all

/-- A path is taken whole or not at all. -/
theorem past_of_mem_optional_path {mid : Place Part}
    (h : mid ∈ (optional (capture .path pathPattern)).placesFrom limit place) :
    ∃ p, IsPlain p ∧ (place.passed = 0 ∨ IsRooted p) ∧ place.Past p (captured .path p) mid := by
  rcases mem_optional.mp h with h | rfl
  · obtain ⟨inner, hinner, rfl⟩ := mem_capture.mp h
    obtain ⟨p, hne, hp, hstart, hover⟩ := isPlain_of_mem_pathPattern hinner
    refine ⟨p, hp, hstart.imp_right Or.inr, ?_⟩
    rw [captured, if_neg hne]
    exact hover.past_capture Part.path
  · exact ⟨[], isPlain_nil, Or.inr (Or.inl rfl), (Place.Over.nil_iff.mpr rfl).past⟩

theorem exists_mem_optional_path {p rest : Text} (hlimit : place.rest.length ≤ limit)
    (hp : IsPlain p) (hstart : place.passed = 0 ∨ IsRooted p) (hrest : place.rest = p ++ rest) :
    ∃ mid ∈ (optional (capture .path pathPattern)).placesFrom limit place, mid.rest = rest := by
  by_cases hne : p = []
  · subst hne
    exact ⟨place, mem_optional.mpr (Or.inr rfl), hrest⟩
  · obtain ⟨inner, hover, hinner⟩ := Place.exists_over hrest
    have hmem : inner ∈ pathPattern.placesFrom limit place :=
      (mem_pathPattern hlimit).mpr ⟨p, hne, hp, hstart.imp_right fun h => h.resolve_left hne, hover⟩
    exact ⟨_, mem_optional.mpr (Or.inl (mem_capture.mpr ⟨inner, hmem, rfl⟩)), hinner⟩

/-- The sections that a match of the tail goes through. -/
theorem sections_of_mem_tail {after : Place Part} (h : after ∈ tailPattern.placesFrom limit place) :
    ((place.passed = 0 ∨ IsRooted (Sections.ofText place.rest).front) ∧
      (Sections.ofText place.rest).Unbroken) ∧
      after.parts = (Sections.ofText place.rest).captures ++
        (captured .path (Sections.ofText place.rest).front ++ place.parts) := by
  obtain ⟨first, hfirst, h⟩ := mem_both.mp h
  obtain ⟨second, hsecond, h⟩ := mem_both.mp h
  obtain ⟨third, hthird, h⟩ := mem_both.mp h
  obtain ⟨hend, rfl⟩ := mem_atEnd.mp h
  obtain ⟨path, hpath, hstart, hpathPast⟩ := past_of_mem_optional_path hfirst
  obtain ⟨query, hquery, hqueryPast⟩ := past_of_mem_optional hsecond
  obtain ⟨fragment, hfragment, hfragmentPast⟩ := past_of_mem_optional hthird
  have hall := (hpathPast.trans hqueryPast).trans hfragmentPast
  have hmarks : ∀ q ∈ query, ∀ c ∈ q, c ≠ '#' ∧ c ≠ '\r' ∧ c ≠ '\n' := by
    intro q hq c hc
    simpa [isQueryChar, and_assoc] using (hquery q hq).cls c hc
  -- What was taken is cut again where it was put together, as no mark was taken too early.
  have hsections : Sections.ofText place.rest = ⟨path, query, fragment⟩ := by
    obtain ⟨hpathQuery, hpathFragment, -⟩ := isPlain_iff.mp hpath
    rw [← Sections.ofText_text (s := ⟨path, query, fragment⟩) hpathQuery hpathFragment
      fun q hq hc => (hmarks q hq _ hc).1 rfl, hall.rest, hend]
    simp [Sections.text]
  rw [hsections]
  refine ⟨⟨hstart, ?_, ?_, ?_⟩, ?_⟩
  · exact (isPlain_iff.mp hpath).2.2
  · exact fun q hq => ⟨fun hc => (hmarks q hq _ hc).2.1 rfl, fun hc => (hmarks q hq _ hc).2.2 rfl⟩
  · intro f hf hc
    simpa [isFragmentChar] using (hfragment f hf).cls _ hc
  · rw [hall.parts, Sections.captures]
    simp only [List.append_assoc]

theorem exists_mem_tail (hlimit : place.rest.length ≤ limit)
    (hstart : place.passed = 0 ∨ IsRooted (Sections.ofText place.rest).front)
    (hunbroken : (Sections.ofText place.rest).Unbroken) :
    ∃ after, after ∈ tailPattern.placesFrom limit place := by
  have hquery := @Sections.fragment_not_mem_query place.rest
  have hfrontQuery := Sections.query_not_mem_front place.rest
  have hfrontFragment := Sections.fragment_not_mem_front place.rest
  have htext := Sections.text_ofText place.rest
  generalize Sections.ofText place.rest = s at *
  obtain ⟨first, hfirst, hfirstRest⟩ := exists_mem_optional_path hlimit
    (isPlain_iff.mpr ⟨hfrontQuery, hfrontFragment, hunbroken.front⟩) hstart htext.symm
  have hrunQuery : ∀ q ∈ s.query, IsRun 0 none isQueryChar q := by
    intro q hq
    refine ⟨fun c hc => ?_, Nat.zero_le _, by simp⟩
    have hbreaks := hunbroken.query q hq
    simp only [isQueryChar, Bool.and_eq_true, bne_iff_ne]
    exact ⟨⟨fun h => hquery q hq (h ▸ hc), fun h => hbreaks.1 (h ▸ hc)⟩, fun h => hbreaks.2 (h ▸ hc)⟩
  have hrunFragment : ∀ f ∈ s.fragment, IsRun 0 none isFragmentChar f := by
    intro f hf
    refine ⟨fun c hc => ?_, Nat.zero_le _, by simp⟩
    simp only [isFragmentChar, bne_iff_ne]
    exact fun h => hunbroken.fragment f hf (h ▸ hc)
  obtain ⟨second, hsecond, -, hsecondRest⟩ :=
    exists_mem_optional limit Part.query hrunQuery hfirstRest
  rw [← List.append_nil (introduced '#' s.fragment)] at hsecondRest
  obtain ⟨third, hthird, -, hthirdRest⟩ :=
    exists_mem_optional limit Part.fragment hrunFragment hsecondRest
  exact ⟨third, mem_both.mpr ⟨first, hfirst, mem_both.mpr ⟨second, hsecond,
    mem_both.mpr ⟨third, hthird, mem_atEnd.mpr ⟨hthirdRest, rfl⟩⟩⟩⟩⟩

/-- **What the tail captures.** -/
theorem captures?_tail (hlimit : place.rest.length ≤ limit) :
    captures? limit tailPattern place = some parts ↔
      ((place.passed = 0 ∨ IsRooted (Sections.ofText place.rest).front) ∧
        (Sections.ofText place.rest).Unbroken) ∧
        parts = (Sections.ofText place.rest).captures ++
          (captured .path (Sections.ofText place.rest).front ++ place.parts) :=
  captures?_eq_some_iff (fun _ h => sections_of_mem_tail h)
    fun h => exists_mem_tail hlimit h.1 h.2

/-! ## The host -/

theorem over_of_mem_host {inner : Place Part} (h : inner ∈ hostPattern.placesFrom limit place) :
    ∃ host, IsHost host ∧ place.Over host inner := by
  rcases mem_either.mp h with h | h
  · obtain ⟨host, hhost, hlength, -, hover⟩ := mem_run.mp h
    exact ⟨host, Or.inl ⟨List.ne_nil_of_length_pos hlength, hhost⟩, hover⟩
  · obtain ⟨opened, hopened, h⟩ := mem_both.mp h
    obtain ⟨mid, hmid, hclosed⟩ := mem_both.mp h
    obtain ⟨address, haddress, hlength, -, hover⟩ := mem_run.mp hmid
    refine ⟨'[' :: (address ++ [']']), Or.inr ⟨address, List.ne_nil_of_length_pos hlength,
      haddress, rfl⟩, ?_⟩
    exact (over_of_mem_char hopened).trans (hover.trans (over_of_mem_char hclosed))

theorem mem_host_of_over (limit : Nat) {host : Text} {inner : Place Part} (h : IsHost host)
    (hover : place.Over host inner) : inner ∈ hostPattern.placesFrom limit place := by
  rcases h with ⟨hne, hhost⟩ | ⟨address, hne, haddress, rfl⟩
  · exact mem_either.mpr (Or.inl (mem_run.mpr
      ⟨host, hhost, List.length_pos_iff.mpr hne, by simp, hover⟩))
  · obtain ⟨opened, hopened, hinside⟩ := (show place.Over (['['] ++ (address ++ [']'])) inner
      from hover).split
    obtain ⟨mid, hmid, hclosed⟩ := hinside.split
    refine mem_either.mpr (Or.inr (mem_both.mpr ⟨opened, ?_, mem_both.mpr ⟨mid, ?_, ?_⟩⟩))
    · exact mem_char.mpr ⟨hopened.rest, hopened.passed, hopened.captured⟩
    · exact mem_run.mpr ⟨address, haddress, List.length_pos_iff.mpr hne, by simp, hmid⟩
    · exact mem_char.mpr ⟨hclosed.rest, hclosed.passed, hclosed.captured⟩

theorem isRun_of_isPort {digits : Text} (h : IsPort digits) :
    IsRun 1 (some 5) Char.isDigit digits where
  cls := h.2.2
  least := List.length_pos_iff.mpr h.1
  most := by simpa using h.2.1

/-- Two slashes, a host and perhaps a port are taken. -/
theorem past_of_mem_authority {mid : Place Part}
    (h : mid ∈ authorityPattern.placesFrom limit place) :
    ∃ host port, IsHost host ∧ (∀ digits ∈ port, IsPort digits) ∧
      place.Past ('/' :: '/' :: (host ++ introduced ':' port))
        (port.toList.map (Part.port, ·) ++ captured .host host) mid := by
  obtain ⟨first, hfirst, h⟩ := mem_both.mp h
  obtain ⟨second, hsecond, h⟩ := mem_both.mp h
  obtain ⟨third, hthird, h⟩ := mem_both.mp h
  obtain ⟨inner, hinner, rfl⟩ := mem_capture.mp hthird
  obtain ⟨host, hhost, hover⟩ := over_of_mem_host hinner
  obtain ⟨port, hport, hportPast⟩ := past_of_mem_optional h
  have hslashes := (over_of_mem_char hfirst).trans (over_of_mem_char hsecond)
  refine ⟨host, port, hhost, fun digits hd => ?_, ?_⟩
  · have hrun := hport digits hd
    exact ⟨List.ne_nil_of_length_pos hrun.least, hrun.most 5 rfl, hrun.cls⟩
  · have hall := hslashes.past.trans ((hover.past_capture Part.host).trans hportPast)
    rw [captured, if_neg hhost.ne_nil]
    simpa using hall

theorem exists_mem_authority (limit : Nat) {host rest : Text} {port : Option Text} (hhost : IsHost host)
    (hport : ∀ digits ∈ port, IsPort digits)
    (hrest : place.rest = '/' :: '/' :: (host ++ (introduced ':' port ++ rest))) :
    ∃ mid ∈ authorityPattern.placesFrom limit place, mid.rest = rest := by
  obtain ⟨first, hfirst, -, hfirstRest⟩ := exists_mem_char limit hrest
  obtain ⟨second, hsecond, -, hsecondRest⟩ := exists_mem_char limit hfirstRest
  obtain ⟨inner, hover, hinner⟩ := Place.exists_over hsecondRest
  obtain ⟨third, hthird, hthirdPast⟩ :=
    exists_mem_capture hover (mem_host_of_over limit hhost hover) Part.host
  have hthirdRest : third.rest = introduced ':' port ++ rest := by
    have := hthirdPast.rest
    rw [hsecondRest] at this
    exact (List.append_cancel_left this).symm
  obtain ⟨mid, hmid, -, hmidRest⟩ := exists_mem_optional limit Part.port
    (fun digits hd => isRun_of_isPort (hport digits hd)) hthirdRest
  exact ⟨mid, mem_both.mpr ⟨first, hfirst, mem_both.mpr ⟨second, hsecond,
    mem_both.mpr ⟨third, hthird, hmid⟩⟩⟩, hmidRest⟩

theorem isPlain_host {host : Text} (h : IsHost host) : IsPlain host := by
  rcases h with ⟨-, hhost⟩ | ⟨address, -, haddress, rfl⟩
  · exact isPlain_of_cls hhost (by decide)
  · have haddress := isPlain_of_cls haddress (by decide)
    simp [haddress]

theorem isPlain_introduced_port {port : Option Text} (h : ∀ digits ∈ port, IsPort digits) :
    IsPlain (introduced ':' port) := by
  cases port with
  | none => exact isPlain_nil
  | some digits =>
    have hdigits := isPlain_of_cls (h digits rfl).2.2 (by decide)
    simp [introduced, hdigits]

theorem isPlain_authority {host : Text} {port : Option Text} (hhost : IsHost host)
    (hport : ∀ digits ∈ port, IsPort digits) :
    IsPlain ('/' :: '/' :: (host ++ introduced ':' port)) := by
  simp [isPlain_host hhost, isPlain_introduced_port hport]

/-- Where there is a host to be read, the grammar goes on behind it. -/
theorem captures?_authority (hlimit : place.rest.length ≤ limit) :
    captures? limit (both authorityPattern tailPattern) place = some parts ↔
      ((∃ site, siteOf? (Sections.ofText place.rest).front = some site) ∧
        (Sections.ofText place.rest).Unbroken) ∧
        parts = (Sections.ofText place.rest).captures ++
          ((Front.behind [] (Sections.ofText place.rest).front).captures ++ place.parts) := by
  refine captures?_both_eq_some_iff (fun mid hmid parts hparts => ?_) fun h => ?_
  · -- The tail can only be completed behind the longest host and port, for it begins with
    -- a slash; what was taken is then the site that is read.
    obtain ⟨host, port, hhost, hport, hpast⟩ := past_of_mem_authority hmid
    have hmidLimit : mid.rest.length ≤ limit := by
      rw [hpast.rest, List.length_append] at hlimit
      omega
    obtain ⟨⟨hstart, hunbroken⟩, rfl⟩ := (captures?_tail hmidLimit).mp hparts
    have hplain := isPlain_authority hhost hport
    have hpath := hstart.resolve_left (by
      rw [hpast.passed, List.length_cons]
      omega)
    rw [hpast.rest, Sections.ofText_append hplain]
    generalize Sections.ofText mid.rest = s at *
    have hsite : siteOf? (s.push ('/' :: '/' :: (host ++ introduced ':' port))).front =
        some ⟨host, port, s.front⟩ :=
      siteOf?_eq_some_iff.mpr ⟨⟨hhost, hport, hpath⟩, by simp [Site.text, Sections.push]⟩
    refine ⟨⟨⟨_, hsite⟩, (Sections.unbroken_push hplain).mpr hunbroken⟩, ?_⟩
    rw [Front.behind_of_site hsite, hpast.parts]
    simp [Front.captures, Sections.captures, Sections.push, captured]
  · obtain ⟨⟨site, hsite⟩, hunbroken⟩ := h
    obtain ⟨hwell, hfront⟩ := siteOf?_eq_some_iff.mp hsite
    have hplain := isPlain_authority hwell.host hwell.port
    have happend : (Sections.ofText place.rest).front =
        ('/' :: '/' :: (site.host ++ introduced ':' site.port)) ++ site.path := by
      rw [hfront]
      simp [Site.text]
    obtain ⟨rest, hrest, hpath, hbroken⟩ := Sections.exists_of_front_eq_append hplain happend
    have hmidLimit : rest.length ≤ limit := by
      rw [hrest, List.length_append] at hlimit
      omega
    rw [List.cons_append, List.cons_append, List.append_assoc] at hrest
    obtain ⟨mid, hmid, rfl⟩ := exists_mem_authority limit hwell.host hwell.port hrest
    refine ⟨mid, hmid, _, (captures?_tail hmidLimit).mpr ⟨⟨Or.inr ?_, hbroken.mpr hunbroken⟩, rfl⟩⟩
    rw [hpath]
    exact hwell.path

/-- **What the grammar captures behind the scheme.** -/
theorem captures?_hierarchy (hlimit : place.rest.length ≤ limit) :
    captures? limit hierarchyPattern place = some parts ↔
      ((place.passed = 0 ∨ IsRooted (Sections.ofText place.rest).front) ∧
        (Sections.ofText place.rest).Unbroken) ∧
        parts = (Sections.ofText place.rest).captures ++
          ((Front.behind [] (Sections.ofText place.rest).front).captures ++ place.parts) := by
  rw [hierarchyPattern, captures?_both_optional, Option.or_eq_some_iff, captures?_authority hlimit,
    captures?_tail hlimit, Option.eq_none_iff_forall_ne_some]
  simp only [ne_eq, captures?_authority hlimit]
  generalize Sections.ofText place.rest = s
  cases hsite : siteOf? s.front with
  | some site =>
    -- The tail alone would match, too, but a host is preferred.
    have hrooted : IsRooted s.front := by
      rw [(siteOf?_eq_some_iff.mp hsite).2]
      exact Or.inr rfl
    grind
  | none =>
    rw [Front.behind_of_no_site hsite]
    simp [Front.captures, captured]

/-! ## The scheme -/

theorem past_of_mem_scheme {mid : Place Part} (h : mid ∈ schemePattern.placesFrom limit place) :
    ∃ scheme, scheme ≠ [] ∧ (∀ c ∈ scheme, isLetter c) ∧
      place.Past (scheme ++ [':']) [(.scheme, scheme)] mid := by
  obtain ⟨letters, hletters, hcolon⟩ := mem_both.mp h
  obtain ⟨scheme, hscheme, hpast⟩ := past_of_mem_capture_run hletters
  exact ⟨scheme, List.ne_nil_of_length_pos hscheme.least, hscheme.cls,
    hpast.trans (over_of_mem_char hcolon).past⟩

theorem exists_mem_scheme (limit : Nat) {scheme rest : Text} (hne : scheme ≠ [])
    (hscheme : ∀ c ∈ scheme, isLetter c) (hrest : place.rest = scheme ++ ':' :: rest) :
    ∃ mid ∈ schemePattern.placesFrom limit place, mid.rest = rest := by
  have hrun : IsRun 1 none isLetter scheme := ⟨hscheme, List.length_pos_iff.mpr hne, by simp⟩
  obtain ⟨letters, hletters, hpast⟩ := exists_mem_capture_run limit Part.scheme hrun hrest
  have hlettersRest : letters.rest = ':' :: rest := by
    have := hpast.rest
    rw [hrest] at this
    exact (List.append_cancel_left this).symm
  obtain ⟨mid, hmid, -, hmidRest⟩ := exists_mem_char limit hlettersRest
  exact ⟨mid, mem_both.mpr ⟨letters, hletters, hmid⟩, hmidRest⟩

theorem isPlain_scheme {scheme : Text} (h : ∀ c ∈ scheme, isLetter c) :
    IsPlain (scheme ++ [':']) := by
  simp [isPlain_of_cls h (by decide)]

/-- Where there is a scheme to be read, the grammar goes on behind it. -/
theorem captures?_scheme (hlimit : place.rest.length ≤ limit) :
    captures? limit (both schemePattern hierarchyPattern) place = some parts ↔
      ((∃ split, schemeOf? (Sections.ofText place.rest).front = some split) ∧
        (Sections.ofText place.rest).Unbroken) ∧
        parts = (Sections.ofText place.rest).captures ++
          ((Front.ofText (Sections.ofText place.rest).front).captures ++ place.parts) := by
  refine captures?_both_eq_some_iff (fun mid hmid parts hparts => ?_) fun h => ?_
  · -- Something has been passed, so what follows the colon is empty or begins with a slash.
    obtain ⟨scheme, hne, hscheme, hpast⟩ := past_of_mem_scheme hmid
    have hmidLimit : mid.rest.length ≤ limit := by
      rw [hpast.rest, List.length_append] at hlimit
      omega
    obtain ⟨⟨hstart, hunbroken⟩, rfl⟩ := (captures?_hierarchy hmidLimit).mp hparts
    have hplain := isPlain_scheme hscheme
    have hrest := hstart.resolve_left (by
      rw [hpast.passed, List.length_append, List.length_singleton]
      omega)
    rw [hpast.rest, Sections.ofText_append hplain]
    generalize Sections.ofText mid.rest = s at *
    have hsplit : schemeOf? (s.push (scheme ++ [':'])).front = some (scheme, s.front) :=
      schemeOf?_eq_some_iff.mpr ⟨hne, hscheme, hrest, by simp [Sections.push]⟩
    refine ⟨⟨⟨_, hsplit⟩, (Sections.unbroken_push hplain).mpr hunbroken⟩, ?_⟩
    rw [Front.ofText_of_scheme hsplit, Front.captures_behind scheme, hpast.parts, captured,
      if_neg hne]
    simp [Sections.captures, Sections.push]
  · obtain ⟨⟨⟨scheme, behind⟩, hsplit⟩, hunbroken⟩ := h
    obtain ⟨hne, hscheme, hrooted, hfront⟩ := schemeOf?_eq_some_iff.mp hsplit
    have hplain := isPlain_scheme hscheme
    have happend : (Sections.ofText place.rest).front = (scheme ++ [':']) ++ behind := by
      rw [hfront, List.append_assoc, List.singleton_append]
    obtain ⟨rest, hrest, hbehind, hbroken⟩ := Sections.exists_of_front_eq_append hplain happend
    have hmidLimit : rest.length ≤ limit := by
      rw [hrest, List.length_append] at hlimit
      omega
    rw [List.append_assoc, List.singleton_append] at hrest
    obtain ⟨mid, hmid, rfl⟩ := exists_mem_scheme limit hne hscheme hrest
    refine ⟨mid, hmid, _,
      (captures?_hierarchy hmidLimit).mpr ⟨⟨Or.inr ?_, hbroken.mpr hunbroken⟩, rfl⟩⟩
    rw [hbehind]
    exact hrooted

/-! ## The whole grammar -/

/-- **The grammar captures what the reading without going back finds,** and it matches
unless a line break stands in the way. -/
theorem captures?_grammar {text : Text} (hlimit : text.length ≤ limit) :
    captures? limit grammar (.start text) = some parts ↔
      (Sections.ofText text).Unbroken ∧
        parts = (Sections.ofText text).captures ++
          (Front.ofText (Sections.ofText text).front).captures := by
  have hplace : (Place.start text : Place Part).rest.length ≤ limit := hlimit
  have hrest : (Place.start text : Place Part).rest = text := rfl
  rw [grammar_eq, captures?_atStart_both, captures?_both_optional, Option.or_eq_some_iff,
    captures?_scheme hplace, captures?_hierarchy hplace, Option.eq_none_iff_forall_ne_some]
  simp only [ne_eq, captures?_scheme hplace, Place.parts_start, List.append_nil, hrest,
    show (Place.start text : Place Part).passed = 0 from rfl, true_or, true_and]
  generalize Sections.ofText text = s
  cases hscheme : schemeOf? s.front with
  | some split => grind
  | none =>
    rw [Front.ofText_of_no_scheme hscheme]
    simp

end Uri
end OutboundHttp
