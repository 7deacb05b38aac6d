import OutboundHttp.Proofs.Builder.Run
import OutboundHttp.Proofs.Uri.Append

/-!
# Base urls

A base url is written as its parts are (`baseUrl_eq_compose`), so it is read again as these parts,
with the slash that a path has behind a host.  A resource that a new builder puts behind it is
parted from this path by one slash (`writtenPath_append`), whatever slashes there were.
-/
namespace OutboundHttp
namespace UriParts

open Text Uri

variable {parts : UriParts} {relative : Text}

/-- Behind a host a path that does not begin with a slash is put behind another by one slash, also
if there is no other. -/
theorem writtenPath_append (hhost : parts.host ≠ []) (hpath : IsRooted parts.path)
    (hblank : isBlank relative = false) (hstop : Stops (· == '/') relative) :
    writtenPath { parts with path := Path.append parts.path relative } =
      trimEnd (· == '/') parts.path ++ '/' :: relative := by
  have htrim : trimStart (· == '/') relative = relative :=
    @dropWhile_append_of_stops _ [] relative (List.forall_mem_nil _) hstop
  rcases hpath with hnil | hslash
  · have hroot : ¬ IsRooted relative := by
      rintro (rfl | hslash)
      · cases hblank
      · exact absurd (hstop '/' hslash) (by decide)
    rw [hnil, Path.append_of_blank_base rfl hblank, writtenPath, if_pos ⟨hhost, hroot⟩]
    rfl
  · have hbase : isBlank parts.path = false :=
      isBlank_eq_false_of_mem (List.mem_of_mem_head? hslash) (by decide)
    obtain ⟨run, hrun, -, -⟩ := exists_trimEnd (· == '/') parts.path
    have hroot : IsRooted (trimEnd (· == '/') parts.path) := by
      have hwhole : IsRooted parts.path := Or.inr hslash
      rw [hrun] at hwhole
      exact hwhole.of_append
    rw [Path.append_of_not_blank hbase hblank, htrim]
    exact writtenPath_of_isRooted (hroot.append (Or.inr rfl))

end UriParts

namespace Builder

open Text Uri UriParts

variable {host : Text}

/-- The parts that a base url is made from. -/
def baseParts (useHttps : Bool) (host : Text) (port : UInt16) (path : Option Text) : UriParts where
  scheme := if useHttps then "https" else "http"
  host := host
  port := some port
  path := strip (path.getD [])

theorem hasOrigin_baseParts (hhost : IsHost host) (useHttps : Bool) (port : UInt16)
    (path : Option Text) : (baseParts useHttps host port path).HasOrigin := by
  have hscheme : ∀ c ∈ (if useHttps then "https" else "http" : Text), isLetter c := by
    cases useHttps <;> exact List.all_eq_true.mp rfl
  exact ⟨hscheme, hhost⟩

theorem origin_baseParts (hhost : IsHost host) (useHttps : Bool) (port : UInt16)
    (path : Option Text) :
    (baseParts useHttps host port path).origin =
      (baseParts useHttps host port path).scheme ++ ("://" : Text) ++ host ++
        ':' :: Text.ofNat port.toNat := by
  have hscheme : (baseParts useHttps host port path).scheme ≠ [] := by
    cases useHttps <;> exact List.cons_ne_nil _ _
  have hne : (baseParts useHttps host port path).host ≠ [] := hhost.ne_nil
  rw [origin, schemeText, if_neg hscheme, hostText, if_neg hne, List.append_assoc,
    List.append_assoc, List.append_assoc]
  rfl

theorem writtenPath_baseParts (hhost : IsHost host) (useHttps : Bool) (port : UInt16)
    (path : Option Text) :
    let given := strip (path.getD [])
    (baseParts useHttps host port path).writtenPath =
      if given = [] then [] else if given.head? = some '/' then given else '/' :: given := by
  intro given
  by_cases hnil : given = []
  · rw [writtenPath_of_isRooted (Or.inl hnil), if_pos hnil]
    exact hnil
  · rw [if_neg hnil]
    by_cases hslash : given.head? = some '/'
    · rw [writtenPath_of_isRooted (Or.inr hslash), if_pos hslash]
      rfl
    · rw [if_neg hslash]
      exact if_pos ⟨hhost.ne_nil, not_or.mpr ⟨hnil, hslash⟩⟩

/-- **A base url is written as its parts are.** -/
theorem baseUrl_eq_compose (hhost : IsHost host) (useHttps : Bool) (port : UInt16)
    (path : Option Text) :
    baseUrl useHttps host port path = (baseParts useHttps host port path).compose := by
  have horigin := hasOrigin_baseParts hhost useHttps port path
  have htail : (baseParts useHttps host port path).tail =
      (baseParts useHttps host port path).writtenPath := List.append_nil _
  rw [compose_eq horigin.scheme (Or.inr hhost), htail, writtenPath_baseParts hhost,
    origin_baseParts hhost]
  simp only [baseUrl, List.isEmpty_iff]
  by_cases hnil : strip (path.getD []) = []
  · rw [if_pos hnil, if_pos hnil, List.append_nil]
    rfl
  · rw [if_neg hnil, if_neg hnil]
    split <;> rfl

/-- A new builder with a resource puts it behind the path of its base url. -/
theorem resolveUrl_resource {text : Text} {base : Uri} (h : parse text = .ok base)
    (hhost : base.host ≠ []) {resource : Text} (hplain : IsPlain resource) :
    ∃ url, ((ofUri base).run [.resource resource]).resolveUrl = .ok url ∧
      url.toUriParts = { base.toUriParts with
        path := writtenPath { base.toUriParts with
          path := Path.append base.path (trimStart (· == '/') resource) } } := by
  have hresource : IsPlain (trimStart (· == '/') resource) :=
    fun c hc => hplain c (Path.mem_of_mem_trimStart hc)
  obtain ⟨changed, hchanged, hparts⟩ := exists_appendPath_of_host h hhost hresource
  have hread := parse_compose hchanged
  have hresolve : ((ofUri base).run [.resource resource]).resolveUrl =
      (base.appendPath (trimStart (· == '/') resource) >>= fun url => url.addQueryParams []) >>=
        pure := rfl
  -- Without parameters the url is only written and read once more.
  have hadd : changed.addQueryParams [] = parse changed.compose := rfl
  rw [hresolve, hchanged, Result.ok_bind, hadd, hread]
  exact ⟨_, rfl, hparts⟩

/-- **Base urls are read as they are made.**  Scheme, host and port are those that were given, and so
is the path without the spaces around it, with a slash in front of it; a new builder puts one slash
between this path and a resource, whatever slashes there are at the end of the one and in front of
the other. -/
theorem parse_baseUrl (useHttps : Bool) (hhost : IsHost host) (port : UInt16) {path : Option Text}
    (hplain : IsPlain (strip (path.getD []))) :
    let given := strip (path.getD [])
    ∃ base, parse (baseUrl useHttps host port path) = .ok base ∧
      base.toUriParts = {
        scheme := if useHttps then "https" else "http"
        host := host
        port := some port
        path := if given = [] then [] else if given.head? = some '/' then given else '/' :: given
        query := []
        fragment := [] } ∧
      ∀ resource, IsPlain resource → isBlank (trimStart (· == '/') resource) = false →
        ∃ url, ((ofUri base).run [.resource resource]).resolveUrl = .ok url ∧
          url.toUriParts = { base.toUriParts with
            path := trimEnd (· == '/') base.path ++ '/' :: trimStart (· == '/') resource } := by
  intro given
  have horigin := hasOrigin_baseParts hhost useHttps port path
  have hwritten := writtenPath_baseParts hhost useHttps port path
  obtain ⟨base, hbase, hread, hparts⟩ := horigin.exists_ofParts hwritten
    (hwritten ▸ isPlain_writtenPath hplain) ⟨List.not_mem_nil, noBreak_nil⟩ List.not_mem_nil
  have hparse : parse (baseUrl useHttps host port path) = .ok base := by
    rw [baseUrl_eq_compose hhost]
    exact hbase
  refine ⟨base, hparse, hparts, fun resource hresource hblank => ?_⟩
  have hhostBase : base.host ≠ [] := by
    rw [hparts]
    exact hhost.ne_nil
  obtain ⟨url, hurl, hpath⟩ := resolveUrl_resource hparse hhostBase hresource
  rw [writtenPath_append hhostBase ((wellFormed_of_parse hparse).path_isRooted hhostBase) hblank
    (stops_dropWhile _ resource)] at hpath
  exact ⟨url, hurl, hpath⟩

/-- An address in brackets, and slashes, colons and spaces in both paths. -/
theorem parse_baseUrl_brackets :
    IsHost "[::1]" ∧ IsPlain (strip " a @b:// ") ∧ IsPlain "//c:d /" ∧
      ∃ base url, parse (baseUrl true "[::1]" 8080 (some " a @b:// ")) = .ok base ∧
        base.scheme = "https".toList ∧ base.host = "[::1]".toList ∧ base.port = some 8080 ∧
        base.path = "/a @b://".toList ∧
        ((ofUri base).run [.resource "//c:d /"]).resolveUrl = .ok url ∧
        url.host = "[::1]".toList ∧ url.path = "/a @b:/c:d /".toList := by
  have hhost : IsHost "[::1]" := Or.inr ⟨"::1", by decide, List.all_eq_true.mp rfl, rfl⟩
  have hplain : IsPlain (strip " a @b:// ") := by decide
  have hresource : IsPlain "//c:d /" := by decide
  obtain ⟨base, hparse, hparts, hresolve⟩ :=
    @parse_baseUrl _ true hhost 8080 (some " a @b:// ") hplain
  obtain ⟨url, hurl, hpath⟩ := hresolve "//c:d /" hresource (by decide)
  refine ⟨hhost, hplain, hresource, base, url, hparse, ?_, ?_, ?_, ?_, hurl, ?_, ?_⟩
  · rw [hparts]
    rfl
  · rw [hparts]
  · rw [hparts]
  · rw [hparts]
    rfl
  · rw [hpath, hparts]
  · rw [hpath, hparts]
    decide

end Builder
end OutboundHttp
