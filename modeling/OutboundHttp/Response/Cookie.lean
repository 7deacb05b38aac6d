import OutboundHttp.Data.SortedMap
import OutboundHttp.Text.Basic

/-!
# Cookies

A cookie line names a cookie, gives it a value, and goes on behind a semicolon with
what does not matter here.
-/
namespace OutboundHttp
namespace Cookie

/-- The name and the value in a cookie line: the name ends at the first equals sign,
and the value at the first semicolon behind that. -/
def ofLine? (line : Text) : Option (Text × Text) :=
  (Text.cutAt? '=' line).map fun (name, rest) => (name, rest.takeWhile (· != ';'))

/-- The cookies of several lines; of two with the same name the later counts. -/
def ofLines (lines : List Text) : SortedMap Text Text :=
  .ofList (lines.filterMap ofLine?)

end Cookie
end OutboundHttp
