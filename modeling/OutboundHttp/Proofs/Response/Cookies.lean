import OutboundHttp.Proofs.Data.SortedMap
import OutboundHttp.Proofs.Text.Cut
import OutboundHttp.Response.Basic

/-!
# Cookies and pairs

A cookie line begins with a pair, and behind the first semicolon come attributes.  A cookie is
read up to the first equals sign of its line, wherever this stands (`ofLine?_eq_some_iff`).  So
the cookies whose names hold no semicolon are exactly those of the pairs, and there are others
as soon as a line has an equals sign among its attributes only (`cookies_eq_ofPairs_iff`).
-/
namespace OutboundHttp
namespace Cookie

open Text

/-- The pair that a cookie line begins with: what stands before the first semicolon, cut at its
first equals sign. -/
def pairOf? (line : Text) : Option (Text × Text) :=
  cutAt? '=' (cutFirst ';' line).1

/-- The cookies by the pairs of several lines; of two with the same name the later counts. -/
def ofPairs (lines : List Text) : SortedMap Text Text :=
  .ofList (lines.filterMap pairOf?)

/-! ## One line -/

/-- A cookie is read up to the first equals sign, and behind it up to the first semicolon or the
end. -/
theorem ofLine?_eq_some_iff {line name value : Text} :
    ofLine? line = some (name, value) ↔
      '=' ∉ name ∧ ';' ∉ value ∧
        ∃ rest, line = name ++ '=' :: (value ++ rest) ∧ (rest = [] ∨ rest.head? = some ';') := by
  constructor
  · intro h
    obtain ⟨⟨before, after⟩, hcut, heq⟩ := Option.map_eq_some_iff.mp h
    cases heq
    obtain ⟨hname, hline⟩ := eq_append_cons_of_cutAt? hcut
    obtain ⟨run, rest, rfl, hrun, hrest⟩ := exists_run (· != ';') after
    have hvalue : (run ++ rest).takeWhile (· != ';') = run := takeWhile_append_of_stops hrun hrest
    refine ⟨hname, fun hmem => ?_, rest, ?_, ?_⟩
    · rw [hvalue] at hmem
      exact absurd (hrun ';' hmem) (by decide)
    · rw [hvalue, hline]
    · cases rest with
      | nil => exact Or.inl rfl
      | cons c rest =>
        have hc : c = ';' := by simpa using stops_cons.mp hrest
        exact Or.inr (congrArg some hc)
  · rintro ⟨hname, hvalue, rest, rfl, hrest⟩
    have hrun : ∀ c ∈ value, (c != ';') = true := fun c hc =>
      bne_iff_ne.mpr fun heq => hvalue (heq ▸ hc)
    have hstop : Stops (· != ';') rest := by
      intro c hc
      rcases hrest with rfl | hhead
      · cases hc
      · rw [hhead] at hc
        cases hc
        rfl
    rw [ofLine?, cutAt?_append_cons hname, Option.map_some]
    exact congrArg (fun value => some (name, value)) (takeWhile_append_of_stops hrun hstop)

theorem ofLine?_eq_none_iff {line : Text} : ofLine? line = none ↔ '=' ∉ line := by
  rw [ofLine?, Option.map_eq_none_iff, cutAt?_eq_none_iff]

theorem pairOf?_eq_none_iff {line : Text} :
    pairOf? line = none ↔ '=' ∉ (cutFirst ';' line).1 :=
  cutAt?_eq_none_iff

/-- The pair of a line is its cookie, if the name of that holds no semicolon. -/
theorem pairOf?_eq (line : Text) :
    pairOf? line = (ofLine? line).filter fun cookie => decide (';' ∉ cookie.1) := by
  cases h : ofLine? line with
  | none =>
    refine pairOf?_eq_none_iff.mpr fun hmem => ofLine?_eq_none_iff.mp h ?_
    rw [← cutFirst_append_introduced ';' line]
    exact List.mem_append_left _ hmem
  | some cookie =>
    obtain ⟨name, value⟩ := cookie
    obtain ⟨hname, hvalue, rest, hline, hrest⟩ := ofLine?_eq_some_iff.mp h
    -- What stands before the first semicolon ends inside of the name or behind the value.
    by_cases hmem : ';' ∈ name
    · obtain ⟨before, after, rfl, hbefore⟩ := List.eq_append_cons_of_mem hmem
      have hcut : (cutFirst ';' line).1 = before := by
        rw [hline, List.append_assoc, List.cons_append, cutFirst_append_cons hbefore]
      have hnone : pairOf? line = none := by
        rw [pairOf?_eq_none_iff, hcut]
        exact fun heq => hname (List.mem_append_left _ heq)
      rw [hnone, Option.filter_some_neg]
      simp
    · have hpair : ';' ∉ name ++ '=' :: value := by simp [hmem, hvalue]
      have hcut : (cutFirst ';' line).1 = name ++ '=' :: value := by
        rw [hline, ← List.cons_append, ← List.append_assoc]
        exact cutFirst_append_of_head hpair hrest
      rw [pairOf?, hcut, cutAt?_append_cons hname, Option.filter_some_pos]
      exact decide_eq_true hmem

/-- The name of a cookie holds no semicolon if the line has an equals sign before its first one,
or none at all. -/
theorem forall_mem_ofLine?_iff {line : Text} :
    (∀ cookie ∈ ofLine? line, ';' ∉ cookie.1) ↔ ('=' ∈ line → '=' ∈ (cutFirst ';' line).1) := by
  have hpair := pairOf?_eq line
  cases h : ofLine? line with
  | none =>
    have hnot := ofLine?_eq_none_iff.mp h
    simp [hnot]
  | some cookie =>
    have hmem : '=' ∈ line := Decidable.byContradiction fun hnot => by
      rw [ofLine?_eq_none_iff.mpr hnot] at h
      cases h
    have hiff : ';' ∈ cookie.1 ↔ '=' ∉ (cutFirst ';' line).1 := by
      rw [← pairOf?_eq_none_iff, hpair, h]
      simp
    simp [hmem, hiff]

/-! ## Several lines -/

theorem filterMap_pairOf? (lines : List Text) :
    lines.filterMap pairOf? =
      (lines.filterMap ofLine?).filter fun cookie => decide (';' ∉ cookie.1) := by
  rw [List.filter_filterMap]
  exact congrArg (lines.filterMap ·) (funext pairOf?_eq)

theorem get?_ofPairs (lines : List Text) (name : Text) :
    (ofPairs lines).get? name = if ';' ∈ name then none else (ofLines lines).get? name := by
  rw [ofPairs, filterMap_pairOf?, SortedMap.get?_ofList_filter fun name => decide (';' ∉ name), ofLines]
  by_cases hmem : ';' ∈ name
  · simp [hmem]
  · simp [hmem]

theorem ofLines_eq_ofPairs_iff {lines : List Text} :
    ofLines lines = ofPairs lines ↔
      ∀ line ∈ lines, '=' ∈ line → '=' ∈ (cutFirst ';' line).1 := by
  rw [ofLines, ofPairs, filterMap_pairOf?,
    @SortedMap.ofList_eq_ofList_filter_iff _ _ _ _ _ _ fun name => decide (';' ∉ name)]
  simp only [decide_eq_true_eq, ← forall_mem_ofLine?_iff, List.mem_filterMap]
  constructor
  · intro hall line hline cookie hcookie
    exact hall cookie ⟨line, hline, hcookie⟩
  · rintro hall cookie ⟨line, hline, hcookie⟩
    exact hall line hline cookie hcookie

end Cookie

namespace Response

/-- **The cookies of a response and the pairs that its cookie lines begin with.**  Both are the
same exactly if every cookie line with an equals sign has one before its first semicolon.  The
pairs give the cookies whose names hold no semicolon, in any case, and no others. -/
theorem cookies_eq_ofPairs_iff (response : Response) :
    (response.cookies = Cookie.ofPairs response.cookieLines ↔
      ∀ line ∈ response.cookieLines, '=' ∈ line → '=' ∈ (Text.cutFirst ';' line).1) ∧
      ∀ name, (Cookie.ofPairs response.cookieLines).get? name =
        if ';' ∈ name then none else response.cookies.get? name :=
  ⟨Cookie.ofLines_eq_ofPairs_iff, Cookie.get?_ofPairs response.cookieLines⟩

/-- A line without a pair makes a cookie of its first attribute. -/
theorem cookies_of_attribute :
    let request : Request :=
      { headers := .empty
        data := none
        summary := none
        url := { text := "http://h" }
        method := .get
        cookies := .empty
        options := {} }
    let response :=
      @ofBytes .ascii request [("set-cookie", Utf8.encode "flag; Path=/")] [] ⟨200⟩ .http11
    response.cookies.get? "flag; Path" = some ("/" : Text) ∧
      Cookie.ofPairs response.cookieLines = .empty := by
  intro request response
  have hlines : response.cookieLines = [("flag; Path=/" : Text)] := by decide
  rw [cookies, hlines]
  exact ⟨by decide, by decide⟩

end Response
end OutboundHttp
