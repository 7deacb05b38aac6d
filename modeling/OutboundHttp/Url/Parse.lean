import OutboundHttp.Uri.Basic
import OutboundHttp.Url.Host
import OutboundHttp.Url.Path

/-!
# Reading urls

A text is read in the way of browsers, without a base: control characters and spaces
around it and line breaks inside it do not count, schemes that browsers know need no
slashes, segments of dots are resolved, and whatever may not stand in a part is percent
coded.
-/
namespace OutboundHttp
namespace Url

/-- The text without what browsers do not see. -/
def visible (text : Text) : Text :=
  (Text.trim (fun c => c.toNat ≤ 0x20) text).filter fun c => c != '\t' && c != '\n' && c != '\r'

/-- The scheme in lower case, and what follows its colon. -/
def splitScheme? (text : Text) : Option (Text × Text) :=
  match Text.cutAt? ':' text with
  | some (scheme, rest) =>
    let isSchemeChar (c : Char) := c.isAlphanum || c == '+' || c == '-' || c == '.'
    if (scheme.head?.any Char.isAlpha) && scheme.all isSchemeChar then
      some (Text.lowerAscii scheme, rest)
    else none
  | none => none

/-- The character ends an authority. -/
def endsAuthority (special : Bool) (c : Char) : Bool :=
  c == '/' || c == '?' || c == '#' || (special && c == '\\')

/-- A user name and a password as they are written. -/
def userinfoText (text : Text) : Text :=
  let escaped := escapeWhere isUserinfoEscape
  let written := match Text.cutAt? ':' text with
    | none => escaped text
    | some (name, []) => escaped name
    | some (name, password) => escaped name ++ ':' :: escaped password
  if written.isEmpty then [] else written ++ ['@']

/-- The host, and the port behind it with its colon.  Colons in brackets belong to the
host; `inside` says that a bracket is open. -/
def splitPort (inside : Bool) : Text → Text × Text
  | [] => ([], [])
  | c :: rest =>
    if c = ':' ∧ !inside then ([], c :: rest)
    else
      let inside := if c = '[' then true else if c = ']' then false else inside
      let (host, port) := splitPort inside rest
      (c :: host, port)

/-- The port behind a host, unless it is that of the scheme. -/
def portOf (scheme : Text) : Text → Except UrlError (Option UInt16)
  | [] => .ok none
  | _ :: digits =>
    if !digits.all Char.isDigit then .error .badPort
    else
      let n := Text.ofDigits 10 digits
      if 65536 ≤ n then .error .badPort
      else if digits.isEmpty || schemePort? scheme == some n.toUInt16 then .ok none
      else .ok (some n.toUInt16)

/-- The query and the fragment of what follows a path. -/
def tailOf (special : Bool) (text : Text) : Option Text × Option Text :=
  let (before, fragment) := match Text.cutAt? '#' text with
    | some (before, fragment) => (before, some (escapeWhere isFragmentEscape fragment))
    | none => (text, none)
  match before with
  | '?' :: query => (some (escapeWhere (isQueryEscape special) query), fragment)
  | _ => (none, fragment)

/-- What stands before the query and the fragment, and the rest. -/
def splitTail (text : Text) : Text × Text :=
  let inPath (c : Char) := c != '?' && c != '#'
  (text.takeWhile inPath, text.dropWhile inPath)

/-- The path behind an authority.  A url that browsers know has at least one segment. -/
def authorityPath (special : Bool) (text : Text) : UrlPath :=
  if text.isEmpty && !special then .segments []
  else .segments (segmentsOf special false (afterSlash special text))

/-- Reads a url behind the two slashes of its authority.  A backslash ends a port also
where it is no slash. -/
def parseAuthority (scheme text : Text) : Except UrlError Url := do
  let special := isSpecial scheme
  let authority := text.takeWhile fun c => !endsAuthority special c
  let rest := text.dropWhile fun c => !endsAuthority special c
  let userinfo := Text.beforeLast? '@' authority
  let hostAndPort := match userinfo with
    | some userinfo => authority.drop (userinfo.length + 1)
    | none => authority
  if userinfo == some [] && hostAndPort.isEmpty && !rest.isEmpty then throw .emptyHost
  let (host, port) := splitPort false hostAndPort
  let userText := userinfoText (userinfo.getD [])
  if host.isEmpty && (special || !port.isEmpty || !userText.isEmpty) then throw .emptyHost
  let host ← if special then knownHost host else otherHost host
  let rest := port.dropWhile (· != '\\') ++ rest
  let port ← portOf scheme (port.takeWhile (· != '\\'))
  let (path, rest) := splitTail rest
  let (query, fragment) := tailOf special rest
  return {
    scheme := scheme
    hasAuthority := true
    userinfo := userText
    host := if host.isEmpty then none else some host
    port := port
    path := authorityPath special path
    query := query
    fragment := fragment }

/-- The host of a file, and what follows it.  A drive is no host. -/
def splitFileHost (text : Text) : Text × Text :=
  let host := text.takeWhile fun c => !endsAuthority true c
  if isDrive host then ([], text) else (host, text.drop host.length)

/-- Reads the url of a file behind the colon of its scheme.  Two slashes introduce a
host, which does not count if it is the own machine or if the path begins with a drive. -/
def parseFile (text : Text) : Except UrlError Url := do
  let (host, rest) :=
    if (text.takeWhile (isSlash true)).length < 2 then ([], text) else splitFileHost (text.drop 2)
  let host ← if host.isEmpty then pure [] else knownHost host
  let (path, rest) := splitTail rest
  let (query, fragment) := tailOf true rest
  let segments := segmentsOf true true (afterSlash true path)
  let isLocal := host.isEmpty || host == "localhost".toList || segments.head?.any isDrive
  return {
    scheme := "file"
    hasAuthority := true
    userinfo := []
    host := if isLocal then none else some host
    port := none
    path := .segments (dropEmptySegments segments)
    query := query
    fragment := fragment }

/-- Reads a url without an authority behind the colon of its scheme. -/
def parsePlain (scheme text : Text) : Url :=
  let (path, rest) := splitTail text
  let (query, fragment) := tailOf false rest
  { scheme := scheme
    hasAuthority := false
    userinfo := []
    host := none
    port := none
    path := match path with
      | '/' :: path => .segments (segmentsOf false false path)
      | path => .opaqueText (escapeWhere isControl path)
    query := query
    fragment := fragment }

/-- Reads a text as a url. -/
def parse (text : Text) : Except UrlError Url :=
  match splitScheme? (visible text) with
  | none => .error .noBase
  | some (scheme, rest) =>
    if isFile scheme then parseFile rest
    else if isSpecial scheme then parseAuthority scheme (rest.dropWhile (isSlash true))
    else
      match rest with
      | '/' :: '/' :: rest => parseAuthority scheme rest
      | rest => .ok (parsePlain scheme rest)

end Url

/-- The url that a uri stands for. -/
def Uri.toUrl (uri : Uri) : Except UrlError Url :=
  Url.parse uri.text

end OutboundHttp
