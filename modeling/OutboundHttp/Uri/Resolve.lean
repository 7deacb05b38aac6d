import OutboundHttp.Uri.Grammar
import OutboundHttp.Uri.Paths

/-!
# Resolving uris

A base uri takes a further path, or a relative uri seen from it.
-/
namespace OutboundHttp
namespace Uri

/-- The uri with a path behind its own. -/
def appendPath (uri : Uri) (path : Text) : Except UriError Uri :=
  ofParts { uri.toUriParts with path := Path.append uri.path path }

/-- The relative uri as seen from a base.  A scheme makes it absolute; a host keeps
only the scheme of the base; a path is resolved against the directory of the base's
path; otherwise only its query and fragment count. -/
def combine (base relative : Uri) : Except UriError Uri :=
  if !Text.isBlank relative.scheme then .ok relative
  else if !Text.isBlank relative.host then
    ofParts { relative.toUriParts with scheme := base.scheme }
  else if !Text.isBlank relative.path then
    ofParts { base.toUriParts with
      path := Path.resolve base.path relative.path
      query := relative.query
      fragment := relative.fragment }
  else
    ofParts { base.toUriParts with query := relative.query, fragment := relative.fragment }

end Uri
end OutboundHttp
