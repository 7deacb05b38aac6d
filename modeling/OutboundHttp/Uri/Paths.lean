import OutboundHttp.Text.Blank

/-!
# Joining paths

Two ways to put a path behind another: `append` keeps the first path and sets one slash
between the two, `resolve` puts the second in place of the first path's last name.  A
blank path leaves the other as it is.
-/
namespace OutboundHttp
namespace Path

/-- The two paths with exactly one slash between them. -/
def append (base relative : Text) : Text :=
  if Text.isBlank relative then base
  else if Text.isBlank base then relative
  else Text.trimEnd (· == '/') base ++ '/' :: Text.trimStart (· == '/') relative

/-- The second path seen from the directory of the first. -/
def resolve (base relative : Text) : Text :=
  if Text.isBlank relative then base
  else if relative.head? == some '/' then relative
  else
    match Text.beforeLast? '/' base with
    | some directory => directory ++ '/' :: relative
    | none => relative

end Path
end OutboundHttp
