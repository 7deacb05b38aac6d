import OutboundHttp.Text.Shown
import OutboundHttp.Uri.Basic

/-!
# Uris shown to a programmer
-/
namespace OutboundHttp

/-- The parts of a uri by their names. -/
def Uri.shown (uri : Uri) : Text :=
  Shown.record "HttpUri" [
    ("scheme", Text.quoted uri.scheme),
    ("host", Text.quoted uri.host),
    ("port", Shown.option (uri.port.map fun port => Text.ofNat port.toNat)),
    ("path", Text.quoted uri.path),
    ("query", Text.quoted uri.query),
    ("fragment", Text.quoted uri.fragment)]

end OutboundHttp
