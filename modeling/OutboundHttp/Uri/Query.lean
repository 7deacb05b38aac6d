import OutboundHttp.Text.Percent
import OutboundHttp.Uri.Grammar

/-!
# Query parameters

A query is a list of pairs: `&` stands between two pairs, the first `=` of a pair
between its key and its value, and both are percent coded.
-/
namespace OutboundHttp
namespace Query

/-- A pair as it is written. -/
def pairText (key value : Text) : Text :=
  Percent.escape key ++ '=' :: Percent.escape value

/-- A written pair read; without `=` the value is empty. -/
def readPair (piece : Text) : Text × Text :=
  match Text.cutAt? '=' piece with
  | some (key, value) => (Percent.unescape key, Percent.unescape value)
  | none => (Percent.unescape piece, [])

/-- The pairs of a query in order; a blank query has none. -/
def pairs (query : Text) : List (Text × Text) :=
  if Text.isBlank query then [] else (Text.splitOn '&' query).map readPair

/-- The query with one more pair at its end. -/
def push (query : Text) (pair : Text × Text) : Text :=
  (if query.isEmpty then [] else query ++ ['&']) ++ pairText pair.1 pair.2

end Query

namespace Uri

/-- The query parameters of a uri, in order and with all repetitions. -/
def queryParams (uri : Uri) : List (Text × Text) :=
  Query.pairs uri.query

/-- The uri with another query. -/
def setQuery (uri : Uri) (query : Text) : Except UriError Uri :=
  ofParts { uri.toUriParts with query := query }

/-- The uri with one more query parameter; a blank query is replaced. -/
def addQueryParam (uri : Uri) (key value : Text) : Except UriError Uri :=
  uri.setQuery <|
    if Text.isBlank uri.query then Query.pairText key value
    else uri.query ++ '&' :: Query.pairText key value

/-- The uri with more query parameters, in order; only an empty query is replaced. -/
def addQueryParams (uri : Uri) (params : List (Text × Text)) : Except UriError Uri :=
  uri.setQuery (params.foldl Query.push uri.query)

end Uri
end OutboundHttp
