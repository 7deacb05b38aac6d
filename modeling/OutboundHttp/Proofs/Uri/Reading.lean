import OutboundHttp.Proofs.Text.Cut
import OutboundHttp.Uri.Grammar

/-!
# Reading a uri without going back

A uri can be read from left to right without ever taking back a decision.  The text is
cut at its first number sign, and what stands before that at its first question mark;
what is left in front is a scheme, a host with a port, and a path, of which each is
recognised by the character that ends it.

Each part of the reading comes with the rule that says exactly when it is found:
`Sections.ofText_text`, `schemeOf?_eq_some_iff` and `siteOf?_eq_some_iff`.
-/
namespace OutboundHttp
namespace Uri

open Text

/-! ## Plain text -/

/-- The text holds no carriage return and no line feed. -/
def NoBreak (text : Text) : Prop :=
  '\r' ∉ text ∧ '\n' ∉ text

instance (text : Text) : Decidable (NoBreak text) :=
  inferInstanceAs (Decidable (_ ∧ _))

theorem noBreak_iff {text : Text} : NoBreak text ↔ ∀ c ∈ text, c ≠ '\r' ∧ c ≠ '\n' := by
  constructor
  · rintro ⟨hreturn, hfeed⟩ c hc
    exact ⟨fun h => hreturn (h ▸ hc), fun h => hfeed (h ▸ hc)⟩
  · intro h
    exact ⟨fun hc => (h _ hc).1 rfl, fun hc => (h _ hc).2 rfl⟩

@[simp] theorem noBreak_nil : NoBreak [] := by
  simp [NoBreak]

@[simp] theorem noBreak_cons {c : Char} {text : Text} :
    NoBreak (c :: text) ↔ (c ≠ '\r' ∧ c ≠ '\n') ∧ NoBreak text := by
  simp only [NoBreak, List.mem_cons, not_or]
  grind

@[simp] theorem noBreak_append {a b : Text} : NoBreak (a ++ b) ↔ NoBreak a ∧ NoBreak b := by
  simp only [NoBreak, List.mem_append, not_or]
  grind

/-- The text holds no question mark, number sign or line break. -/
def IsPlain (text : Text) : Prop :=
  ∀ c ∈ text, c ≠ '?' ∧ c ≠ '#' ∧ c ≠ '\r' ∧ c ≠ '\n'

instance (text : Text) : Decidable (IsPlain text) :=
  List.decidableBAll _ text

theorem isPlain_iff {text : Text} :
    IsPlain text ↔ '?' ∉ text ∧ '#' ∉ text ∧ NoBreak text := by
  unfold NoBreak
  constructor
  · intro h
    refine ⟨fun hc => ?_, fun hc => ?_, fun hc => ?_, fun hc => ?_⟩ <;> simpa using h _ hc
  · rintro ⟨hquery, hfragment, hreturn, hfeed⟩ c hc
    exact ⟨fun h => hquery (h ▸ hc), fun h => hfragment (h ▸ hc), fun h => hreturn (h ▸ hc),
      fun h => hfeed (h ▸ hc)⟩

@[simp] theorem isPlain_nil : IsPlain [] := by
  simp [IsPlain]

@[simp] theorem isPlain_append {a b : Text} : IsPlain (a ++ b) ↔ IsPlain a ∧ IsPlain b :=
  List.forall_mem_append

@[simp] theorem isPlain_cons {c : Char} {text : Text} :
    IsPlain (c :: text) ↔ (c ≠ '?' ∧ c ≠ '#' ∧ c ≠ '\r' ∧ c ≠ '\n') ∧ IsPlain text :=
  List.forall_mem_cons

/-- The text can be a query: it holds no number sign and no line break. -/
def IsQuery (query : Text) : Prop :=
  '#' ∉ query ∧ NoBreak query

/-- A text of a class that has none of the four characters is plain. -/
theorem isPlain_of_cls {cls : Char → Bool} {text : Text} (h : ∀ c ∈ text, cls c)
    (hcls : cls '?' = false ∧ cls '#' = false ∧ cls '\r' = false ∧ cls '\n' = false) :
    IsPlain text := by
  intro c hc
  have hin := h c hc
  refine ⟨?_, ?_, ?_, ?_⟩ <;> rintro rfl <;> simp [hcls] at hin

/-! ## Sections -/

/-- What stands before query and fragment, and these two. -/
structure Sections where
  front : Text
  query : Option Text
  fragment : Option Text
  deriving DecidableEq, Repr

namespace Sections

/-- A text cut at the first number sign, and before that at the first question mark. -/
def ofText (text : Text) : Sections :=
  let outer := cutFirst '#' text
  let inner := cutFirst '?' outer.1
  ⟨inner.1, inner.2, outer.2⟩

/-- The text that was cut. -/
def text (s : Sections) : Text :=
  s.front ++ (introduced '?' s.query ++ introduced '#' s.fragment)

/-- No section holds a line break, but for a carriage return in the fragment. -/
structure Unbroken (s : Sections) : Prop where
  front : NoBreak s.front
  query : ∀ q ∈ s.query, NoBreak q
  fragment : ∀ f ∈ s.fragment, '\n' ∉ f

@[simp] theorem ofText_fragment (rest : Text) : ofText ('#' :: rest) = ⟨[], none, some rest⟩ := by
  simp [ofText, cutFirst_of_not_mem]

theorem ofText_query (rest : Text) :
    ofText ('?' :: rest) = ⟨[], some (cutFirst '#' rest).1, (cutFirst '#' rest).2⟩ := by
  have h := @cutFirst_append '#' ['?'] (by decide) rest
  rw [List.singleton_append] at h
  simp [ofText, h]

/-- The sections with more text at the front. -/
def push (before : Text) (s : Sections) : Sections :=
  { s with front := before ++ s.front }

/-- A plain text goes to the front. -/
theorem ofText_append {before : Text} (h : IsPlain before) (rest : Text) :
    ofText (before ++ rest) = (ofText rest).push before := by
  obtain ⟨hquery, hfragment, -⟩ := isPlain_iff.mp h
  simp only [ofText, push, cutFirst_append hfragment, cutFirst_append hquery]

theorem unbroken_push {before : Text} (h : IsPlain before) {s : Sections} :
    (s.push before).Unbroken ↔ s.Unbroken := by
  obtain ⟨-, -, hbefore⟩ := isPlain_iff.mp h
  constructor
  · intro hs
    exact ⟨by simpa [push, hbefore] using hs.front, hs.query, hs.fragment⟩
  · intro hs
    exact ⟨by simpa [push, hbefore] using hs.front, hs.query, hs.fragment⟩

theorem text_ofText (text : Text) : (ofText text).text = text := by
  simp only [ofText, Sections.text]
  rw [← List.append_assoc, cutFirst_append_introduced, cutFirst_append_introduced]

/-- A plain start of the front can be taken away. -/
theorem exists_of_front_eq_append {text before path : Text} (hplain : IsPlain before)
    (hfront : (ofText text).front = before ++ path) :
    ∃ rest, text = before ++ rest ∧ (ofText rest).front = path ∧
      ((ofText rest).Unbroken ↔ (ofText text).Unbroken) := by
  have htext := text_ofText text
  rw [Sections.text, hfront, List.append_assoc] at htext
  generalize path ++ (introduced '?' (ofText text).query ++
    introduced '#' (ofText text).fragment) = rest at htext
  have hsections := ofText_append hplain rest
  rw [htext] at hsections
  refine ⟨rest, htext.symm, ?_, ?_⟩
  · rw [hsections] at hfront
    exact List.append_cancel_left hfront
  · rw [hsections, unbroken_push hplain]

theorem query_not_mem_front (text : Text) : '?' ∉ (ofText text).front :=
  not_mem_cutFirst '?' _

theorem fragment_not_mem_front (text : Text) : '#' ∉ (ofText text).front := by
  intro h
  refine not_mem_cutFirst '#' text ?_
  rw [← cutFirst_append_introduced '?' (cutFirst '#' text).1]
  exact List.mem_append_left _ h

theorem fragment_not_mem_query {text : Text} : ∀ q ∈ (ofText text).query, '#' ∉ q := by
  intro q hq h
  refine not_mem_cutFirst '#' text ?_
  rw [← cutFirst_append_introduced '?' (cutFirst '#' text).1]
  have hcut : (cutFirst '?' (cutFirst '#' text).1).2 = some q := hq
  rw [hcut, introduced]
  exact List.mem_append_right _ (List.mem_cons_of_mem _ h)

/-- Sections that hold no marks of their own are found again. -/
theorem ofText_text {s : Sections} (hfront : '?' ∉ s.front) (hfront' : '#' ∉ s.front)
    (hquery : ∀ q ∈ s.query, '#' ∉ q) : ofText s.text = s := by
  have hinner : '#' ∉ s.front ++ introduced '?' s.query := by
    intro h
    rcases List.mem_append.mp h with h | h
    · exact hfront' h
    · cases hq : s.query with
      | none => simp [hq, introduced] at h
      | some q => simp [hq, introduced, hquery q hq] at h
  rw [Sections.text, ← List.append_assoc, ofText, cutFirst_append_introduced_eq hinner,
    cutFirst_append_introduced_eq hfront]

end Sections

/-! ## Scheme -/

/-- Nothing, or a text that begins with a slash. -/
def IsRooted (path : Text) : Prop :=
  path = [] ∨ path.head? = some '/'

instance (path : Text) : Decidable (IsRooted path) :=
  inferInstanceAs (Decidable (_ ∨ _))

/-- Letters with a colon behind them, and what follows if it can follow a scheme. -/
def schemeOf? (front : Text) : Option (Text × Text) :=
  let scheme := front.takeWhile isLetter
  match front.dropWhile isLetter with
  | ':' :: rest => if scheme ≠ [] ∧ IsRooted rest then some (scheme, rest) else none
  | _ => none

theorem IsRooted.stops {path : Text} (h : IsRooted path) {cls : Char → Bool}
    (hslash : cls '/' = false) : Stops cls path := by
  rcases h with rfl | h
  · exact stops_nil cls
  · intro c hc
    rw [h] at hc
    cases hc
    exact hslash

theorem schemeOf?_eq_some_iff {front scheme rest : Text} :
    schemeOf? front = some (scheme, rest) ↔
      scheme ≠ [] ∧ (∀ c ∈ scheme, isLetter c) ∧ IsRooted rest ∧ front = scheme ++ ':' :: rest := by
  constructor
  · intro h
    obtain ⟨run, stop, rfl, hrun, hstop⟩ := exists_run isLetter front
    simp only [schemeOf?, takeWhile_append_of_stops hrun hstop,
      dropWhile_append_of_stops hrun hstop] at h
    split at h
    · split at h
      · cases h
        exact ⟨‹_ ∧ _›.1, hrun, ‹_ ∧ _›.2, rfl⟩
      · cases h
    · cases h
  · rintro ⟨hne, hscheme, hrest, rfl⟩
    have hstop : Stops isLetter (':' :: rest) := stops_cons.mpr (by decide)
    simp only [schemeOf?, takeWhile_append_of_stops hscheme hstop,
      dropWhile_append_of_stops hscheme hstop]
    rw [if_pos ⟨hne, hrest⟩]

/-! ## Host and port -/

/-- Host characters, or an address in brackets. -/
def IsHost (host : Text) : Prop :=
  (host ≠ [] ∧ ∀ c ∈ host, isHostChar c) ∨
    ∃ address, address ≠ [] ∧ (∀ c ∈ address, isAddressChar c) ∧ host = '[' :: (address ++ [']'])

/-- One to five digits. -/
def IsPort (digits : Text) : Prop :=
  digits ≠ [] ∧ digits.length ≤ 5 ∧ ∀ c ∈ digits, c.isDigit

/-- The host at the start of a text, and what follows it. -/
def hostOf? : Text → Option (Text × Text)
  | '[' :: inside =>
    let address := inside.takeWhile isAddressChar
    match inside.dropWhile isAddressChar with
    | ']' :: rest => if address = [] then none else some ('[' :: (address ++ [']']), rest)
    | _ => none
  | text =>
    let name := text.takeWhile isHostChar
    if name = [] then none else some (name, text.dropWhile isHostChar)

/-- The digits of the port at the start of a text if there is one, and what follows. -/
def portOf : Text → Option Text × Text
  | ':' :: rest =>
    let digits := rest.takeWhile Char.isDigit
    if digits ≠ [] ∧ digits.length ≤ 5 then (some digits, rest.dropWhile Char.isDigit)
    else (none, ':' :: rest)
  | text => (none, text)

/-- A host with what follows it in front of a uri. -/
structure Site where
  host : Text
  port : Option Text
  path : Text
  deriving DecidableEq, Repr

/-- The host behind two slashes, if a port and a path are all that follows it. -/
def siteOf? : Text → Option Site
  | '/' :: '/' :: text =>
    match hostOf? text with
    | some (host, rest) =>
      let (port, path) := portOf rest
      if IsRooted path then some ⟨host, port, path⟩ else none
    | none => none
  | _ => none

/-- A site as it is written. -/
def Site.text (site : Site) : Text :=
  '/' :: '/' :: (site.host ++ (introduced ':' site.port ++ site.path))

/-- A site that is what its parts are called. -/
structure Site.WellFormed (site : Site) : Prop where
  host : IsHost site.host
  port : ∀ digits ∈ site.port, IsPort digits
  path : IsRooted site.path

theorem IsHost.ne_nil {host : Text} (h : IsHost host) : host ≠ [] := by
  rcases h with ⟨h, -⟩ | ⟨address, -, -, rfl⟩
  · exact h
  · exact List.cons_ne_nil _ _

theorem isHost_of_hostOf? {text host rest : Text} (h : hostOf? text = some (host, rest)) :
    IsHost host ∧ text = host ++ rest := by
  unfold hostOf? at h
  split at h
  · rename_i inside
    obtain ⟨address, stop, rfl, haddress, hstop⟩ := exists_run isAddressChar inside
    simp only [takeWhile_append_of_stops haddress hstop,
      dropWhile_append_of_stops haddress hstop] at h
    split at h
    · split at h
      · cases h
      · cases h
        exact ⟨Or.inr ⟨address, ‹_›, haddress, rfl⟩, by simp⟩
    · cases h
  · obtain ⟨name, stop, rfl, hname, hstop⟩ := exists_run isHostChar text
    simp only [takeWhile_append_of_stops hname hstop, dropWhile_append_of_stops hname hstop] at h
    split at h
    · cases h
    · cases h
      exact ⟨Or.inl ⟨‹_›, hname⟩, rfl⟩

theorem hostOf?_append {host rest : Text} (h : IsHost host) (hrest : Stops isHostChar rest) :
    hostOf? (host ++ rest) = some (host, rest) := by
  rcases h with ⟨hne, hhost⟩ | ⟨address, hne, haddress, rfl⟩
  · cases host with
    | nil => exact absurd rfl hne
    | cons c name =>
      have hc : c ≠ '[' := by
        rintro rfl
        exact absurd (hhost '[' List.mem_cons_self) (by decide)
      have htake := takeWhile_append_of_stops hhost hrest
      have hdrop := dropWhile_append_of_stops hhost hrest
      rw [List.cons_append] at htake hdrop ⊢
      rw [hostOf?]
      · simp only [htake, hdrop]
        rw [if_neg hne]
      · intro inside h
        exact hc (List.cons.inj h).1
  · have hstop : Stops isAddressChar (']' :: rest) := stops_cons.mpr (by decide)
    rw [List.cons_append, List.append_assoc, List.singleton_append, hostOf?]
    simp only [takeWhile_append_of_stops haddress hstop, dropWhile_append_of_stops haddress hstop]
    rw [if_neg hne]

theorem isPort_of_portOf {text path : Text} {port : Option Text} (h : portOf text = (port, path)) :
    (∀ digits ∈ port, IsPort digits) ∧ text = introduced ':' port ++ path := by
  unfold portOf at h
  split at h
  · rename_i rest
    obtain ⟨digits, stop, rfl, hdigits, hstop⟩ := exists_run Char.isDigit rest
    simp only [takeWhile_append_of_stops hdigits hstop,
      dropWhile_append_of_stops hdigits hstop] at h
    split at h
    · rename_i hlength
      cases h
      refine ⟨fun d hd => ?_, rfl⟩
      cases hd
      exact ⟨hlength.1, hlength.2, hdigits⟩
    · cases h
      exact ⟨by simp, rfl⟩
  · cases h
    exact ⟨by simp, rfl⟩

theorem portOf_append {port : Option Text} {path : Text} (h : ∀ digits ∈ port, IsPort digits)
    (hpath : IsRooted path) : portOf (introduced ':' port ++ path) = (port, path) := by
  cases port with
  | none =>
    rw [introduced, List.nil_append, portOf]
    rintro rest rfl
    rcases hpath with h | h <;> simp at h
  | some digits =>
    obtain ⟨hne, hlength, hdigits⟩ := h digits rfl
    have hstop : Stops Char.isDigit path := hpath.stops (by decide)
    rw [introduced, List.cons_append, portOf]
    simp only [takeWhile_append_of_stops hdigits hstop, dropWhile_append_of_stops hdigits hstop]
    rw [if_pos ⟨hne, hlength⟩]

theorem stops_introduced {port : Option Text} {path : Text} (hpath : IsRooted path) :
    Stops isHostChar (introduced ':' port ++ path) := by
  cases port with
  | none => exact hpath.stops (by decide)
  | some digits => exact stops_cons.mpr (by decide)

theorem siteOf?_text {site : Site} (h : site.WellFormed) : siteOf? site.text = some site := by
  rw [Site.text, siteOf?, hostOf?_append h.host (stops_introduced h.path)]
  simp only [portOf_append h.port h.path]
  rw [if_pos h.path]

theorem siteOf?_eq_some_iff {text : Text} {site : Site} :
    siteOf? text = some site ↔ site.WellFormed ∧ text = site.text := by
  constructor
  · intro h
    unfold siteOf? at h
    split at h
    · rename_i text
      split at h
      · rename_i host rest hhost
        obtain ⟨hIsHost, rfl⟩ := isHost_of_hostOf? hhost
        split at h
        rename_i port path hport
        obtain ⟨hIsPort, rfl⟩ := isPort_of_portOf hport
        split at h
        · cases h
          exact ⟨⟨hIsHost, hIsPort, ‹_›⟩, rfl⟩
        · cases h
      · cases h
    · cases h
  · rintro ⟨h, rfl⟩
    exact siteOf?_text h

/-! ## The front -/

/-- The parts that stand before query and fragment; a part that is not there is empty. -/
structure Front where
  scheme : Text
  host : Text
  port : Option Text
  path : Text
  deriving DecidableEq, Repr

/-- The parts that stand behind the scheme. -/
def Front.behind (scheme rest : Text) : Front :=
  match siteOf? rest with
  | some site => ⟨scheme, site.host, site.port, site.path⟩
  | none => ⟨scheme, [], none, rest⟩

/-- The parts of what stands before query and fragment. -/
def Front.ofText (front : Text) : Front :=
  match schemeOf? front with
  | some (scheme, rest) => .behind scheme rest
  | none => .behind [] front

theorem Front.behind_of_site {scheme text : Text} {site : Site} (h : siteOf? text = some site) :
    Front.behind scheme text = ⟨scheme, site.host, site.port, site.path⟩ := by
  simp [Front.behind, h]

theorem Front.behind_of_no_site {scheme text : Text} (h : siteOf? text = none) :
    Front.behind scheme text = ⟨scheme, [], none, text⟩ := by
  simp [Front.behind, h]

theorem Front.ofText_of_scheme {front scheme rest : Text}
    (h : schemeOf? front = some (scheme, rest)) : Front.ofText front = .behind scheme rest := by
  simp [Front.ofText, h]

theorem Front.ofText_of_no_scheme {front : Text} (h : schemeOf? front = none) :
    Front.ofText front = .behind [] front := by
  simp [Front.ofText, h]

/-! ## The front written and read -/

/-- What may stand in front of a query. -/
structure Front.WellFormed (front : Front) : Prop where
  scheme : ∀ c ∈ front.scheme, isLetter c
  host : front.host = [] ∨ IsHost front.host
  port : ∀ digits ∈ front.port, IsPort digits
  port_of_host : front.host = [] → front.port = none
  path : front.scheme ≠ [] ∨ front.host ≠ [] → IsRooted front.path

/-- A scheme as it is written. -/
def schemeText (scheme : Text) : Text :=
  if scheme = [] then [] else scheme ++ [':']

/-- A host and its port as they are written. -/
def hostText (host : Text) (port : Option Text) : Text :=
  if host = [] then [] else '/' :: '/' :: (host ++ introduced ':' port)

/-- The front as it is written. -/
def Front.text (front : Front) : Text :=
  schemeText front.scheme ++ (hostText front.host front.port ++ front.path)

theorem Front.wellFormed_behind {scheme rest : Text} (hscheme : ∀ c ∈ scheme, isLetter c)
    (hrest : scheme ≠ [] → IsRooted rest) :
    (Front.behind scheme rest).WellFormed ∧
      (Front.behind scheme rest).text = schemeText scheme ++ rest := by
  cases hsite : siteOf? rest with
  | some site =>
    obtain ⟨hwell, htext⟩ := siteOf?_eq_some_iff.mp hsite
    rw [Front.behind_of_site hsite]
    refine ⟨⟨hscheme, Or.inr hwell.host, hwell.port, fun h => absurd h hwell.host.ne_nil,
      fun _ => hwell.path⟩, ?_⟩
    rw [htext, Front.text, hostText, if_neg hwell.host.ne_nil]
    simp [Site.text]
  | none =>
    rw [Front.behind_of_no_site hsite]
    refine ⟨⟨hscheme, Or.inl rfl, by simp, fun _ => rfl, ?_⟩, ?_⟩
    · rintro (h | h)
      · exact hrest h
      · exact absurd rfl h
    · simp [Front.text, hostText]

theorem Front.ofText_cases (text : Text) :
    (Front.ofText text).WellFormed ∧ (Front.ofText text).text = text := by
  cases hscheme : schemeOf? text with
  | some split =>
    obtain ⟨scheme, rest⟩ := split
    obtain ⟨hne, hletters, hrest, htext⟩ := schemeOf?_eq_some_iff.mp hscheme
    rw [Front.ofText_of_scheme hscheme]
    obtain ⟨hwell, hbehind⟩ := Front.wellFormed_behind hletters fun _ => hrest
    refine ⟨hwell, ?_⟩
    rw [hbehind, htext, schemeText, if_neg hne, List.append_assoc, List.singleton_append]
  | none =>
    rw [Front.ofText_of_no_scheme hscheme]
    exact Front.wellFormed_behind (by simp) (absurd rfl)

theorem Front.wellFormed_ofText (text : Text) : (Front.ofText text).WellFormed :=
  (Front.ofText_cases text).1

theorem Front.text_ofText (text : Text) : (Front.ofText text).text = text :=
  (Front.ofText_cases text).2

/-- A front with a host is found again. -/
theorem Front.ofText_text {front : Front} (h : front.WellFormed) (hhost : front.host ≠ []) :
    Front.ofText front.text = front := by
  obtain ⟨scheme, host, port, path⟩ := front
  have hsite : siteOf? (hostText host port ++ path) = some ⟨host, port, path⟩ := by
    refine siteOf?_eq_some_iff.mpr
      ⟨⟨h.host.resolve_left hhost, h.port, h.path (Or.inr hhost)⟩, ?_⟩
    rw [hostText, if_neg hhost]
    simp [Site.text]
  by_cases hscheme : scheme = []
  · subst hscheme
    have hno : schemeOf? (hostText host port ++ path) = none := by
      rw [hostText, if_neg hhost]
      rfl
    rw [Front.text, schemeText, if_pos rfl, List.nil_append, Front.ofText_of_no_scheme hno,
      Front.behind_of_site hsite]
  · have hsplit : schemeOf? (scheme ++ ':' :: (hostText host port ++ path)) =
        some (scheme, hostText host port ++ path) := by
      refine schemeOf?_eq_some_iff.mpr ⟨hscheme, h.scheme, Or.inr ?_, rfl⟩
      rw [hostText, if_neg hhost]
      rfl
    rw [Front.text, schemeText, if_neg hscheme, List.append_assoc, List.singleton_append,
      Front.ofText_of_scheme hsplit, Front.behind_of_site hsite]

end Uri
end OutboundHttp
