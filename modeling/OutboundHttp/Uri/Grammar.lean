import OutboundHttp.Pattern
import OutboundHttp.Uri.Basic

/-!
# The grammar of uris

A uri is read by one pattern over the whole text.  The pattern takes relative forms, a
missing scheme, hosts in brackets, and a query or fragment alone.  Letters are compared
without case, in the way of Unicode: the long s counts as an s and the Kelvin sign as
a k.  What the pattern takes is still refused if it has a scheme and a path but no
host, or if its port is above 65535.
-/
namespace OutboundHttp
namespace Uri

/-- The parts that the grammar names. -/
inductive Part where
  | scheme | host | port | path | query | fragment
  deriving DecidableEq, Repr

/-- A letter, in either case; the long s and the Kelvin sign fold to letters. -/
def isLetter (c : Char) : Bool :=
  c.isAlpha || c == '\u017F' || c == '\u212A'

/-- A character of a host that is not in brackets. -/
def isHostChar (c : Char) : Bool :=
  isLetter c || c.isDigit || c == '-' || c == '_' || c == '.'

/-- A character of a host in brackets. -/
def isAddressChar (c : Char) : Bool :=
  Text.isHexDigit c || c == ':'

/-- A character of a path between its slashes. -/
def isPathChar (c : Char) : Bool :=
  c != '/' && c != '?' && c != '#' && c != '\r' && c != '\n'

/-- A character of a query. -/
def isQueryChar (c : Char) : Bool :=
  c != '#' && c != '\r' && c != '\n'

/-- A character of a fragment. -/
def isFragmentChar (c : Char) : Bool :=
  c != '\n'

open Pattern

/-- Letters and a colon. -/
def schemePattern : Pattern Part :=
  both (capture .scheme (run 1 none isLetter)) (char ':')

/-- Host characters, or an address in brackets. -/
def hostPattern : Pattern Part :=
  either (run 1 none isHostChar) (both (char '[') (both (run 1 none isAddressChar) (char ']')))

/-- A colon and up to five digits. -/
def portPattern : Pattern Part :=
  both (char ':') (capture .port (run 1 (some 5) Char.isDigit))

/-- Two slashes, a host, and perhaps a port. -/
def authorityPattern : Pattern Part :=
  both (char '/') <| both (char '/') <| both (capture .host hostPattern) (optional portPattern)

/-- Names with slashes before them, the first of which may start the text, and slashes
at the end; or slashes alone. -/
def pathPattern : Pattern Part :=
  let slashes least := run least none (· == '/')
  let name := both (either atStart (slashes 1)) (run 1 none isPathChar)
  either (both (many1 name) (slashes 0)) (slashes 1)

/-- A question mark and what it introduces. -/
def queryPattern : Pattern Part :=
  both (char '?') (capture .query (run 0 none isQueryChar))

/-- A number sign and what it introduces. -/
def fragmentPattern : Pattern Part :=
  both (char '#') (capture .fragment (run 0 none isFragmentChar))

/-- The whole of a uri. -/
def grammar : Pattern Part :=
  both atStart <| both (optional schemePattern) <| both (optional authorityPattern) <|
    both (optional (capture .path pathPattern)) <| both (optional queryPattern) <|
    both (optional fragmentPattern) atEnd

/-- Reads a text as a uri. -/
def parse (text : Text) : Except UriError Uri := do
  let some found := grammar.match? text | throw (.malformed text)
  let scheme := found.part? .scheme
  let host := found.part? .host
  let path := found.part? .path
  if scheme.isSome && host.isNone && path.isSome then throw (.hostless text)
  let port ← match found.part? .port with
    | none => pure none
    | some digits =>
      let number := Text.ofDigits 10 digits
      if number < 65536 then pure (some (UInt16.ofNat number)) else throw (.portTooLarge text)
  return {
    scheme := scheme.getD []
    host := host.getD []
    port := port
    path := path.getD []
    query := (found.part? .query).getD []
    fragment := (found.part? .fragment).getD []
    text := text }

/-- Writes parts as a text and reads it as a uri. -/
def ofParts (parts : UriParts) : Except UriError Uri :=
  parse parts.compose

end Uri
end OutboundHttp
