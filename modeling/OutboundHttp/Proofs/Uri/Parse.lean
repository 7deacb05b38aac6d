import OutboundHttp.Proofs.Text.Digits
import OutboundHttp.Proofs.Uri.Grammar

/-!
# What a text is read as

Reading a text by the grammar and reading it from left to right give the same result
(`parse_of_unbroken`, `parse_of_broken`): a line break makes it malformed, a scheme with
a path but no host makes it hostless, a port above 65535 is too large, and in all other
cases the parts are those of the sections and the front.  Parts that have been read are
not any six texts (`wellFormed_of_parse`): a scheme is made of letters, a host of host
characters, and what follows them begins with a slash.
-/
namespace OutboundHttp
namespace Uri

open Pattern Text

/-! ## What is found under a name -/

theorem lookup_captured (key name : Part) (text : Text) (l : List (Part × Text)) :
    (captured name text ++ l).lookup key =
      if key = name ∧ text ≠ [] then some text else l.lookup key := by
  by_cases hne : text = []
  · simp [captured, hne]
  · by_cases hkey : key = name
    · simp [captured, hne, hkey]
    · have hbeq : (key == name) = false := beq_eq_false_iff_ne.mpr hkey
      simp [captured, hne, hkey, List.lookup_cons, hbeq]

theorem lookup_option (key name : Part) (text : Option Text) (l : List (Part × Text)) :
    (text.toList.map (name, ·) ++ l).lookup key =
      if key = name ∧ text.isSome then text else l.lookup key := by
  cases text with
  | none => simp
  | some text =>
    by_cases hkey : key = name
    · simp [hkey]
    · have hbeq : (key == name) = false := beq_eq_false_iff_ne.mpr hkey
      simp [hkey, List.lookup_cons, hbeq]

/-- A text, unless it is empty. -/
def nonEmpty? (text : Text) : Option Text :=
  if text = [] then none else some text

@[simp] theorem nonEmpty?_getD (text : Text) : (nonEmpty? text).getD [] = text := by
  unfold nonEmpty?
  split
  · simp [*]
  · rfl

@[simp] theorem nonEmpty?_isSome (text : Text) : (nonEmpty? text).isSome = !text.isEmpty := by
  cases text <;> rfl

/-- The parts found by a match, when it captures what the reading finds. -/
theorem lookup_captures (s : Sections) (front : Front) :
    let found := s.captures ++ front.captures
    found.lookup .scheme = nonEmpty? front.scheme ∧ found.lookup .host = nonEmpty? front.host ∧
      found.lookup .port = front.port ∧ found.lookup .path = nonEmpty? front.path ∧
      found.lookup .query = s.query ∧ found.lookup .fragment = s.fragment := by
  have hlast : captured .scheme front.scheme = captured .scheme front.scheme ++ [] :=
    (List.append_nil _).symm
  simp only [Sections.captures, Front.captures, List.append_assoc]
  rw [hlast]
  simp only [lookup_option, lookup_captured, List.lookup_nil, nonEmpty?, reduceCtorEq, false_and,
    true_and, if_false]
  refine ⟨?_, ?_, ?_, ?_, ?_, ?_⟩
  · simp
  · simp
  · cases front.port <;> simp
  · simp
  · cases s.query <;> simp
  · cases s.fragment <;> simp

/-! ## Reading -/

/-- The parts that the sections of a text stand for. -/
def Sections.parts (s : Sections) : UriParts where
  scheme := (Front.ofText s.front).scheme
  host := (Front.ofText s.front).host
  port := (Front.ofText s.front).port.map fun digits => UInt16.ofNat (ofDigits 10 digits)
  path := (Front.ofText s.front).path
  query := s.query.getD []
  fragment := s.fragment.getD []

/-- There is a scheme and a path but no host. -/
def Front.IsHostless (front : Front) : Prop :=
  front.scheme ≠ [] ∧ front.host = [] ∧ front.path ≠ []

instance (front : Front) : Decidable front.IsHostless :=
  inferInstanceAs (Decidable (_ ∧ _))

/-- The port, if there is one, is at most 65535. -/
def Front.PortFits (front : Front) : Prop :=
  ∀ digits ∈ front.port, ofDigits 10 digits < 65536

instance (front : Front) : Decidable front.PortFits :=
  inferInstanceAs (Decidable (∀ digits ∈ front.port, _))

theorem captures?_grammar_eq_match? (text : Text) :
    captures? text.length grammar (.start text) = (grammar.match? text).map Place.parts := rfl

theorem parse_of_broken {text : Text} (h : ¬ (Sections.ofText text).Unbroken) :
    parse text = .error (.malformed text) := by
  have hnone : grammar.match? text = none := by
    cases hmatch : grammar.match? text with
    | none => rfl
    | some found =>
      have hcaptures : captures? text.length grammar (.start text) = some found.parts := by
        rw [captures?_grammar_eq_match?, hmatch]
        rfl
      exact absurd ((captures?_grammar (Nat.le_refl _)).mp hcaptures).1 h
  simp only [parse, hnone]
  rfl

theorem parse_of_unbroken {text : Text} (h : (Sections.ofText text).Unbroken) :
    parse text =
      if (Front.ofText (Sections.ofText text).front).IsHostless then .error (.hostless text)
      else if (Front.ofText (Sections.ofText text).front).PortFits then
        .ok { toUriParts := (Sections.ofText text).parts, text := text }
      else .error (.portTooLarge text) := by
  have hcaptures := (captures?_grammar (Nat.le_refl text.length)).mpr ⟨h, rfl⟩
  rw [captures?_grammar_eq_match?] at hcaptures
  obtain ⟨found, hmatch, hparts⟩ := Option.map_eq_some_iff.mp hcaptures
  obtain ⟨hscheme, hhost, hport, hpath, hquery, hfragment⟩ :=
    lookup_captures (Sections.ofText text) (Front.ofText (Sections.ofText text).front)
  simp only [← hparts, ← Place.part?_eq_lookup] at hscheme hhost hport hpath hquery hfragment
  simp only [parse, hmatch, hscheme, hhost, hport, hpath, hquery, hfragment, nonEmpty?_isSome,
    nonEmpty?_getD]
  have hhostless : ((!(Front.ofText (Sections.ofText text).front).scheme.isEmpty &&
      (nonEmpty? (Front.ofText (Sections.ofText text).front).host).isNone &&
      !(Front.ofText (Sections.ofText text).front).path.isEmpty) = true) ↔
      (Front.ofText (Sections.ofText text).front).IsHostless := by
    rw [← Option.not_isSome, nonEmpty?_isSome]
    simp [Front.IsHostless, and_assoc]
  simp only [hhostless, Sections.parts]
  generalize Front.ofText (Sections.ofText text).front = front
  obtain ⟨scheme, host, port, path⟩ := front
  split
  · rfl
  · cases port with
    | none => rfl
    | some digits =>
      by_cases hfits : ofDigits 10 digits < 65536
      · have hport : Front.PortFits ⟨scheme, host, some digits, path⟩ := by
          simpa [Front.PortFits] using hfits
        simp only [hfits, hport, if_true]
        rfl
      · have hport : ¬ Front.PortFits ⟨scheme, host, some digits, path⟩ := by
          simpa [Front.PortFits] using hfits
        simp only [hfits, hport, if_false]
        rfl

/-- When a text is a uri, and which. -/
theorem parse_eq_ok_iff {text : Text} {uri : Uri} :
    parse text = .ok uri ↔
      (Sections.ofText text).Unbroken ∧
        ¬ (Front.ofText (Sections.ofText text).front).IsHostless ∧
        (Front.ofText (Sections.ofText text).front).PortFits ∧
        uri = { toUriParts := (Sections.ofText text).parts, text := text } := by
  by_cases h : (Sections.ofText text).Unbroken
  · rw [parse_of_unbroken h]
    split
    · simp [*]
    · split
      · simp [*, eq_comm]
      · simp [*]
  · simp [parse_of_broken h, h]

/-- **A text is read without going back.**  Cut into sections and read from left to right,
it is malformed if a section holds a line break, hostless if there is a scheme and a path
but no host, and otherwise a uri with the parts that were read, unless the port is too
large. -/
theorem parse_reads_forward (text : Text) :
    let s := Sections.ofText text
    let front := Front.ofText s.front
    (parse text = .error (.malformed text) ↔ ¬ s.Unbroken) ∧
      (parse text = .error (.hostless text) ↔ s.Unbroken ∧ front.IsHostless) ∧
      (parse text = .error (.portTooLarge text) ↔ s.Unbroken ∧ ¬ front.PortFits) ∧
      ∀ uri, parse text = .ok uri ↔
        s.Unbroken ∧ ¬ front.IsHostless ∧ front.PortFits ∧
          uri = { toUriParts := s.parts, text := text } := by
  intro s front
  refine ⟨?_, ?_, ?_, fun uri => parse_eq_ok_iff⟩ <;> by_cases h : s.Unbroken
  · rw [parse_of_unbroken h]
    simp only [h, not_true_eq_false, iff_false]
    split <;> (try split) <;> simp
  · simp [parse_of_broken h, h]
  · rw [parse_of_unbroken h]
    simp only [h, true_and]
    split
    · exact ⟨fun _ => ‹_›, fun _ => rfl⟩
    · split <;> simpa using ‹¬ _›
  · simp [parse_of_broken h, h]
  · have hfits : front.IsHostless → front.PortFits := by
      intro hhostless digits hdigits
      rw [(Front.wellFormed_ofText s.front).port_of_host hhostless.2.1] at hdigits
      cases hdigits
    rw [parse_of_unbroken h]
    simp only [h, true_and]
    split
    · simpa using hfits ‹_›
    · split
      · simpa using ‹Front.PortFits _›
      · simpa using ‹¬ Front.PortFits _›
  · simp [parse_of_broken h, h]

/-! ## The parts of a uri -/

end Uri

open Uri in
/-- The parts of a uri that has been read. -/
structure UriParts.WellFormed (parts : UriParts) : Prop where
  scheme : ∀ c ∈ parts.scheme, isLetter c
  host : parts.host = [] ∨ IsHost parts.host
  port_of_host : parts.host = [] → parts.port = none
  path_isPlain : IsPlain parts.path
  path_isRooted : parts.host ≠ [] → IsRooted parts.path
  path_of_scheme : parts.scheme ≠ [] → parts.host = [] → parts.path = []
  query : IsQuery parts.query
  fragment : '\n' ∉ parts.fragment

namespace Uri

theorem IsPlain.of_append_right {a b : Text} (h : IsPlain (a ++ b)) : IsPlain b :=
  (isPlain_append.mp h).2

theorem isPlain_path_of_isPlain {front : Front} (h : IsPlain front.text) : IsPlain front.path :=
  h.of_append_right.of_append_right

/-- **The parts that are read are well formed.** -/
theorem wellFormed_of_parse {text : Text} {uri : Uri} (h : parse text = .ok uri) :
    uri.toUriParts.WellFormed := by
  obtain ⟨hunbroken, hhostless, -, rfl⟩ := parse_eq_ok_iff.mp h
  have hquery := @Sections.fragment_not_mem_query text
  have hplain : IsPlain (Sections.ofText text).front :=
    isPlain_iff.mpr ⟨Sections.query_not_mem_front text, Sections.fragment_not_mem_front text,
      hunbroken.front⟩
  generalize Sections.ofText text = s at *
  have hwell := Front.wellFormed_ofText s.front
  rw [← Front.text_ofText s.front] at hplain
  refine ⟨hwell.scheme, hwell.host, fun hhost => ?_, isPlain_path_of_isPlain hplain,
    fun hhost => hwell.path (Or.inr hhost), fun hscheme hhost => ?_, ?_, ?_⟩
  · simp only [Sections.parts] at hhost ⊢
    rw [hwell.port_of_host hhost]
    rfl
  · by_cases hpath : (Front.ofText s.front).path = []
    · exact hpath
    · exact absurd ⟨hscheme, hhost, hpath⟩ hhostless
  · cases hq : s.query with
    | none => simp [Sections.parts, hq, IsQuery]
    | some q =>
      have hq' : IsQuery q := ⟨hquery q hq, hunbroken.query q hq⟩
      simpa [Sections.parts, hq] using hq'
  · cases hf : s.fragment with
    | none => simp [Sections.parts, hf]
    | some f => simpa [Sections.parts, hf] using hunbroken.fragment f hf

end Uri
end OutboundHttp
