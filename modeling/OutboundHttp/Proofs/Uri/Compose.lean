import OutboundHttp.Proofs.Uri.Parse

/-!
# Parts written and read again

A uri with a host is an *origin*, its scheme, host and port, with a tail behind it.  An
origin is always read again as it was written, whatever the tail holds, as long as a
slash or a mark separates the two (`parse_origin_append`).  Hence the parts of a uri
survive being written and read (`parse_compose`), and the text survives too, but for marks
that introduce nothing and for zeros in front of a port (`compose_eq_text_iff`).
-/
namespace OutboundHttp
namespace Uri

open Text

/-! ## Schemes and hosts are never blank -/

theorem isHostChar_cases {c : Char} (h : isHostChar c = true) :
    (48 ≤ c.toNat ∧ c.toNat ≤ 57) ∨ (65 ≤ c.toNat ∧ c.toNat ≤ 90) ∨
      (97 ≤ c.toNat ∧ c.toNat ≤ 122) ∨ c ∈ ['\u017F', '\u212A', '-', '_', '.'] := by
  simp only [isHostChar, isLetter, Bool.or_eq_true, beq_iff_eq] at h
  rcases h with (((((halpha | rfl) | rfl) | hdigit) | rfl) | rfl) | rfl
  · rcases toNat_of_isAlpha halpha with hupper | hlower
    · exact Or.inr (Or.inl hupper)
    · exact Or.inr (Or.inr (Or.inl hlower))
  · simp
  · simp
  · exact Or.inl (toNat_of_isDigit hdigit)
  · simp
  · simp
  · simp

theorem not_isSpace_of_isHostChar {c : Char} (h : isHostChar c = true) : isSpace c = false := by
  cases hspace : isSpace c with
  | false => rfl
  | true =>
    exfalso
    rcases isHostChar_cases h with h | h | h | h
    -- None of the three ranges holds a space, and neither does the list.
    iterate 3
      simp only [isSpace, Bool.or_eq_true, Bool.and_eq_true, decide_eq_true_eq, beq_iff_eq] at hspace
      omega
    have every : ∀ d ∈ ['\u017F', '\u212A', '-', '_', '.'], isSpace d = false := by simp [isSpace]
    rw [every c h] at hspace
    cases hspace

theorem isHostChar_of_isLetter {c : Char} (h : isLetter c = true) : isHostChar c = true := by
  simp [isHostChar, h]

theorem isBlank_scheme {scheme : Text} (h : ∀ c ∈ scheme, isLetter c) (hne : scheme ≠ []) :
    isBlank scheme = false := by
  obtain ⟨c, hc⟩ := List.exists_mem_of_ne_nil scheme hne
  exact isBlank_eq_false_of_mem hc (not_isSpace_of_isHostChar (isHostChar_of_isLetter (h c hc)))

theorem isBlank_host {host : Text} (h : IsHost host) : isBlank host = false := by
  rcases h with ⟨hne, hhost⟩ | ⟨address, -, -, rfl⟩
  · obtain ⟨c, hc⟩ := List.exists_mem_of_ne_nil host hne
    exact isBlank_eq_false_of_mem hc (not_isSpace_of_isHostChar (hhost c hc))
  · exact isBlank_eq_false_of_mem List.mem_cons_self (by decide)

end Uri

namespace UriParts

open Text Uri

/-! ## What parts are written as -/

/-- The digits of the port. -/
def portDigits (parts : UriParts) : Option Text :=
  parts.port.map fun port => Text.ofNat port.toNat

/-- Scheme, host and port as they are written. -/
def origin (parts : UriParts) : Text :=
  schemeText parts.scheme ++ hostText parts.host parts.portDigits

/-- The path as it is written: behind a host it begins with a slash. -/
def writtenPath (parts : UriParts) : Text :=
  if parts.host ≠ [] ∧ ¬ IsRooted parts.path then '/' :: parts.path else parts.path

/-- What stands behind the origin. -/
def tail (parts : UriParts) : Text :=
  parts.writtenPath ++
    (introduced '?' (nonEmpty? parts.query) ++ introduced '#' (nonEmpty? parts.fragment))

theorem introduced_nonEmpty? (sep : Char) (text : Text) :
    introduced sep (nonEmpty? text) = if text.isEmpty then [] else sep :: text := by
  cases text <;> rfl

theorem writtenPath_eq (parts : UriParts) :
    parts.writtenPath = if parts.path.isEmpty then []
      else if !decide (parts.host = []) && parts.path.head? != some '/' then '/' :: parts.path
      else parts.path := by
  unfold writtenPath
  by_cases hnil : parts.path = [] <;> simp [hnil, IsRooted]

/-- **The text of parts is their origin with the tail behind it.** -/
theorem compose_eq {parts : UriParts} (hscheme : ∀ c ∈ parts.scheme, isLetter c)
    (hhost : parts.host = [] ∨ IsHost parts.host) :
    parts.compose = parts.origin ++ parts.tail := by
  have hschemeText : (if isBlank parts.scheme then [] else parts.scheme ++ [':']) =
      schemeText parts.scheme := by
    by_cases hne : parts.scheme = []
    · simp [hne, schemeText]
    · simp [isBlank_scheme hscheme hne, schemeText, hne]
  have hblank : isBlank parts.host = decide (parts.host = []) := by
    rcases hhost with hhost | hhost
    · simp [hhost]
    · simp [isBlank_host hhost, hhost.ne_nil]
  simp only [compose, hschemeText, hblank, introduced_nonEmpty?, origin, tail, hostText, portDigits,
    writtenPath_eq, List.append_assoc, decide_eq_true_eq]
  cases parts.port <;> rfl

/-! ## Origins -/

theorem isPort_ofNat (port : UInt16) : IsPort (Text.ofNat port.toNat) := by
  refine ⟨Nat.toDigits_ne_nil, ?_, isDigit_of_mem_ofNat⟩
  have hlt := port.toNat_lt
  exact (Nat.length_toDigits_le_iff (by decide) (by decide)).mpr (by omega)

theorem isPort_portDigits {parts : UriParts} : ∀ digits ∈ parts.portDigits, IsPort digits := by
  intro digits h
  obtain ⟨port, -, rfl⟩ := Option.map_eq_some_iff.mp h
  exact isPort_ofNat port

/-- A character of an origin. -/
def isOriginChar (c : Char) : Bool :=
  isHostChar c || isAddressChar c || c == ':' || c == '/' || c == '[' || c == ']'

theorem isOriginChar_of_isHostChar {c : Char} (h : isHostChar c = true) : isOriginChar c = true := by
  simp [isOriginChar, h]

theorem isOriginChar_of_mem_host {host : Text} (h : IsHost host) :
    ∀ c ∈ host, isOriginChar c = true := by
  intro c hc
  rcases h with ⟨-, hhost⟩ | ⟨address, -, haddress, rfl⟩
  · exact isOriginChar_of_isHostChar (hhost c hc)
  · rcases List.mem_cons.mp hc with rfl | hc
    · decide
    · rcases List.mem_append.mp hc with hc | hc
      · simp [isOriginChar, haddress c hc]
      · rw [List.mem_singleton] at hc
        subst hc
        decide

theorem isOriginChar_of_mem_port {port : Option Text} (h : ∀ digits ∈ port, IsPort digits) :
    ∀ c ∈ introduced ':' port, isOriginChar c = true := by
  intro c hc
  cases port with
  | none => cases hc
  | some digits =>
    rcases List.mem_cons.mp hc with rfl | hc
    · decide
    · refine isOriginChar_of_isHostChar ?_
      simp [isHostChar, (h digits rfl).2.2 c hc]

theorem isOriginChar_of_mem_origin {parts : UriParts} (hscheme : ∀ c ∈ parts.scheme, isLetter c)
    (hhost : parts.host = [] ∨ IsHost parts.host) : ∀ c ∈ parts.origin, isOriginChar c = true := by
  intro c hc
  rcases List.mem_append.mp hc with hc | hc
  · unfold schemeText at hc
    split at hc
    · cases hc
    · rcases List.mem_append.mp hc with hc | hc
      · exact isOriginChar_of_isHostChar (isHostChar_of_isLetter (hscheme c hc))
      · rw [List.mem_singleton] at hc
        subst hc
        decide
  · unfold hostText at hc
    split at hc
    · cases hc
    · rename_i hne
      simp only [List.mem_cons, List.mem_append] at hc
      rcases hc with rfl | rfl | hc | hc
      · decide
      · decide
      · exact isOriginChar_of_mem_host (hhost.resolve_left hne) c hc
      · exact isOriginChar_of_mem_port isPort_portDigits c hc

theorem isPlain_origin {parts : UriParts} (hscheme : ∀ c ∈ parts.scheme, isLetter c)
    (hhost : parts.host = [] ∨ IsHost parts.host) : IsPlain parts.origin :=
  isPlain_of_cls (isOriginChar_of_mem_origin hscheme hhost) (by decide)

theorem front_origin_append {parts : UriParts} (hscheme : ∀ c ∈ parts.scheme, isLetter c)
    (hhost : IsHost parts.host) {path : Text} (hpath : IsRooted path) :
    Front.ofText (parts.origin ++ path) =
      ⟨parts.scheme, parts.host, parts.portDigits, path⟩ := by
  have hwell : Front.WellFormed ⟨parts.scheme, parts.host, parts.portDigits, path⟩ :=
    ⟨hscheme, Or.inr hhost, isPort_portDigits, fun h => absurd h hhost.ne_nil, fun _ => hpath⟩
  rw [← Front.ofText_text hwell hhost.ne_nil, Front.text, origin, List.append_assoc]

/-- The number of a port is read from its digits. -/
theorem map_portDigits (parts : UriParts) :
    parts.portDigits.map (fun digits => UInt16.ofNat (ofDigits 10 digits)) = parts.port := by
  unfold portDigits
  cases parts.port with
  | none => rfl
  | some port => simp [ofDigits_ofNat]

theorem portFits_portDigits (scheme host path : Text) (parts : UriParts) :
    Front.PortFits ⟨scheme, host, parts.portDigits, path⟩ := by
  intro digits h
  obtain ⟨port, -, rfl⟩ := Option.map_eq_some_iff.mp h
  rw [ofDigits_ofNat]
  exact port.toNat_lt

theorem sections_origin_append {parts : UriParts} (hscheme : ∀ c ∈ parts.scheme, isLetter c)
    (hhost : IsHost parts.host) (tail : Text) :
    Sections.ofText (parts.origin ++ tail) = (Sections.ofText tail).push parts.origin :=
  Sections.ofText_append (isPlain_origin hscheme (Or.inr hhost)) tail

/-- The uri with the scheme, host and port of some parts and a tail behind them. -/
def withTail (parts : UriParts) (tail : Text) : Uri where
  scheme := parts.scheme
  host := parts.host
  port := parts.port
  path := (Sections.ofText tail).front
  query := (Sections.ofText tail).query.getD []
  fragment := (Sections.ofText tail).fragment.getD []
  text := parts.origin ++ tail

/-- **An origin is read as it was written,** with whatever stands behind it. -/
theorem parse_origin_append {parts : UriParts} (hscheme : ∀ c ∈ parts.scheme, isLetter c)
    (hhost : IsHost parts.host) {tail : Text} (htail : IsRooted (Sections.ofText tail).front)
    (hunbroken : (Sections.ofText tail).Unbroken) :
    parse (parts.origin ++ tail) = .ok (parts.withTail tail) := by
  have hplain := isPlain_origin hscheme (Or.inr hhost)
  have hsections := sections_origin_append hscheme hhost tail
  have hfront : Front.ofText (Sections.ofText (parts.origin ++ tail)).front =
      ⟨parts.scheme, parts.host, parts.portDigits, (Sections.ofText tail).front⟩ := by
    rw [hsections]
    exact front_origin_append hscheme hhost htail
  have hhostless : ¬ Front.IsHostless
      ⟨parts.scheme, parts.host, parts.portDigits, (Sections.ofText tail).front⟩ :=
    fun h => hhost.ne_nil h.2.1
  rw [parse_of_unbroken (by rw [hsections]; exact (Sections.unbroken_push hplain).mpr hunbroken),
    Sections.parts, hfront, if_neg hhostless, if_pos (portFits_portDigits _ _ _ parts),
    map_portDigits, hsections]
  rfl

/-- Behind an origin only a line break can be wrong. -/
theorem parse_origin_append_of_broken {parts : UriParts}
    (hscheme : ∀ c ∈ parts.scheme, isLetter c) (hhost : IsHost parts.host) {tail : Text}
    (hbroken : ¬ (Sections.ofText tail).Unbroken) :
    parse (parts.origin ++ tail) = .error (.malformed (parts.origin ++ tail)) := by
  have hplain := isPlain_origin hscheme (Or.inr hhost)
  refine parse_of_broken fun h => hbroken ?_
  rw [sections_origin_append hscheme hhost] at h
  exact (Sections.unbroken_push hplain).mp h

end UriParts

namespace Uri

open Text

/-! ## Reading what was written -/

theorem nonEmpty?_getD_eq_iff {text : Option Text} : nonEmpty? (text.getD []) = text ↔ text ≠ some [] := by
  cases text with
  | none => simp [nonEmpty?]
  | some text => cases text <;> simp [nonEmpty?]

theorem mem_nonEmpty? {a text : Text} (h : a ∈ nonEmpty? text) : a = text := by
  unfold nonEmpty? at h
  split at h
  · cases h
  · exact (Option.some.inj h).symm

/-- Path, query and fragment are told apart when they are read. -/
theorem sections_of_parts {path query fragment : Text} (hpath : IsPlain path)
    (hquery : IsQuery query) :
    Sections.ofText (path ++ (introduced '?' (nonEmpty? query) ++
      introduced '#' (nonEmpty? fragment))) = ⟨path, nonEmpty? query, nonEmpty? fragment⟩ := by
  obtain ⟨hpathQuery, hpathFragment, -⟩ := isPlain_iff.mp hpath
  refine @Sections.ofText_text ⟨path, nonEmpty? query, nonEmpty? fragment⟩ hpathQuery hpathFragment ?_
  intro q hq
  rw [mem_nonEmpty? hq]
  exact hquery.1

theorem unbroken_of_parts {path query fragment : Text} (hpath : IsPlain path)
    (hquery : IsQuery query) (hfragment : '\n' ∉ fragment) :
    Sections.Unbroken ⟨path, nonEmpty? query, nonEmpty? fragment⟩ := by
  obtain ⟨-, -, hbreaks⟩ := isPlain_iff.mp hpath
  refine ⟨hbreaks, fun q hq => ?_, fun f hf => ?_⟩
  · rw [mem_nonEmpty? hq]
    exact hquery.2
  · rw [mem_nonEmpty? hf]
    exact hfragment

theorem writtenPath_of_wellFormed {parts : UriParts} (h : parts.WellFormed) :
    parts.writtenPath = parts.path :=
  if_neg fun hpath => hpath.2 (h.path_isRooted hpath.1)

/-- Well-formed parts are told apart when they are read. -/
theorem sections_of_wellFormed {parts : UriParts} (h : parts.WellFormed) :
    Sections.ofText parts.compose =
      ⟨parts.origin ++ parts.path, nonEmpty? parts.query, nonEmpty? parts.fragment⟩ := by
  have hplain : IsPlain (parts.origin ++ parts.path) :=
    isPlain_append.mpr ⟨UriParts.isPlain_origin h.scheme h.host, h.path_isPlain⟩
  rw [UriParts.compose_eq h.scheme h.host, UriParts.tail, writtenPath_of_wellFormed h,
    ← List.append_assoc]
  exact sections_of_parts hplain h.query

/-- Well-formed parts are read again from the text that they are written as, if those in front
of query and fragment are. -/
theorem parse_compose_of_front {parts : UriParts} (h : parts.WellFormed)
    (hfront : Front.ofText (parts.origin ++ parts.path) =
      ⟨parts.scheme, parts.host, parts.portDigits, parts.path⟩) :
    parse parts.compose = .ok { toUriParts := parts, text := parts.compose } := by
  have hsections := sections_of_wellFormed h
  have hplain : IsPlain (parts.origin ++ parts.path) :=
    isPlain_append.mpr ⟨UriParts.isPlain_origin h.scheme h.host, h.path_isPlain⟩
  have hunbroken : (Sections.ofText parts.compose).Unbroken := by
    rw [hsections]
    exact unbroken_of_parts hplain h.query h.fragment
  refine parse_eq_ok_iff.mpr ⟨hunbroken, ?_⟩
  rw [Sections.parts, hsections]
  simp only [hfront, nonEmpty?_getD, UriParts.map_portDigits]
  refine ⟨fun hhostless => ?_, UriParts.portFits_portDigits _ _ _ _, trivial⟩
  exact hhostless.2.2 (h.path_of_scheme hhostless.1 hhostless.2.1)

variable {text : Text} {uri : Uri}

/-- The front of a text that has been read is found again in the front that is written
from its parts; only the port may be written in fewer digits. -/
theorem front_of_parse (h : parse text = .ok uri) :
    Front.ofText (uri.origin ++ uri.path) = ⟨uri.scheme, uri.host, uri.portDigits, uri.path⟩ := by
  have hwell := wellFormed_of_parse h
  rcases hwell.host with hhost | hhost
  · obtain ⟨-, -, -, rfl⟩ := parse_eq_ok_iff.mp h
    have hfront := Front.wellFormed_ofText (Sections.ofText text).front
    have htext := Front.text_ofText (Sections.ofText text).front
    have hport := hfront.port_of_host hhost
    simp only [UriParts.origin, UriParts.portDigits, Sections.parts, hport, Option.map_none]
    rw [Front.text, hport] at htext
    rw [List.append_assoc, htext, ← hport]
  · exact UriParts.front_origin_append hwell.scheme hhost (hwell.path_isRooted hhost.ne_nil)

/-- The parts of a uri are read again from the text that they are written as. -/
theorem parse_compose (h : parse text = .ok uri) :
    parse uri.toUriParts.compose =
      .ok { toUriParts := uri.toUriParts, text := uri.toUriParts.compose } :=
  parse_compose_of_front (wellFormed_of_parse h) (front_of_parse h)

/-- The digits of a port are kept if they are the shortest. -/
theorem portDigits_eq_iff (h : parse text = .ok uri) :
    uri.portDigits = (Front.ofText (Sections.ofText text).front).port ↔
      ∀ digits ∈ (Front.ofText (Sections.ofText text).front).port, IsShortest digits := by
  obtain ⟨-, -, hfits, rfl⟩ := parse_eq_ok_iff.mp h
  have hwell := Front.wellFormed_ofText (Sections.ofText text).front
  simp only [UriParts.portDigits, Sections.parts]
  cases hport : (Front.ofText (Sections.ofText text).front).port with
  | none => simp
  | some digits =>
    obtain ⟨hne, -, hdigits⟩ := hwell.port digits hport
    have hnumber : (UInt16.ofNat (ofDigits 10 digits)).toNat = ofDigits 10 digits :=
      UInt16.toNat_ofNat_of_lt' (hfits digits hport)
    simp [hnumber, ofNat_ofDigits_iff hne hdigits]

/-- When the text that the parts are written as is the text that was read. -/
theorem compose_eq_text_iff (h : parse text = .ok uri) :
    uri.toUriParts.compose = text ↔
      (Sections.ofText text).query ≠ some [] ∧ (Sections.ofText text).fragment ≠ some [] ∧
        ∀ digits ∈ (Front.ofText (Sections.ofText text).front).port, IsShortest digits := by
  have hsections := sections_of_wellFormed (wellFormed_of_parse h)
  have hfront := front_of_parse h
  rw [← portDigits_eq_iff h]
  have hparts : uri.toUriParts = (Sections.ofText text).parts := by
    rw [(parse_eq_ok_iff.mp h).2.2.2]
  have hquery : uri.query = (Sections.ofText text).query.getD [] := by rw [hparts]; rfl
  have hfragment : uri.fragment = (Sections.ofText text).fragment.getD [] := by rw [hparts]; rfl
  rw [hquery, hfragment] at hsections
  constructor
  · intro heq
    rw [heq] at hsections
    refine ⟨?_, ?_, ?_⟩
    · rw [← nonEmpty?_getD_eq_iff, hsections]
      simp
    · rw [← nonEmpty?_getD_eq_iff, hsections]
      simp
    · rw [hsections, hfront]
  · rintro ⟨hq, hf, hport⟩
    have htext : uri.origin ++ uri.path = (Sections.ofText text).front := by
      rw [← Front.text_ofText (Sections.ofText text).front, Front.text, UriParts.origin, hport,
        hparts, List.append_assoc]
      rfl
    rw [← Sections.text_ofText uri.toUriParts.compose, hsections, nonEmpty?_getD_eq_iff.mpr hq,
      nonEmpty?_getD_eq_iff.mpr hf, htext]
    exact Sections.text_ofText text

/-- **Parts are written and read without loss.**  What has been read as a uri can be
written and read again with the same parts, and its text is the same unless it has a
question mark or number sign that introduces nothing, or a port with zeros to spare. -/
theorem ofParts_of_parse (h : parse text = .ok uri) :
    ∃ again, ofParts uri.toUriParts = .ok again ∧ again.toUriParts = uri.toUriParts ∧
      (again.text = text ↔
        (Sections.ofText text).query ≠ some [] ∧ (Sections.ofText text).fragment ≠ some [] ∧
          ∀ digits ∈ (Front.ofText (Sections.ofText text).front).port, IsShortest digits) :=
  ⟨_, parse_compose h, rfl, compose_eq_text_iff h⟩

/-- A text that is written differently: its port has a zero to spare and its query is
empty. -/
theorem ofParts_of_parse_padded :
    ∃ uri again, parse "a://b:07/c?#d" = .ok uri ∧ ofParts uri.toUriParts = .ok again ∧
      again.toUriParts = uri.toUriParts ∧ again.text ≠ "a://b:07/c?#d".toList := by
  have hparse : parse "a://b:07/c?#d" = .ok
      { scheme := "a", host := "b", port := some 7, path := "/c", fragment := "d",
        text := "a://b:07/c?#d" } := by rfl
  obtain ⟨again, hagain, hparts, htext⟩ := ofParts_of_parse hparse
  refine ⟨_, again, hparse, hagain, hparts, fun h => ?_⟩
  exact (htext.mp h).1 (by decide)

end Uri
end OutboundHttp
