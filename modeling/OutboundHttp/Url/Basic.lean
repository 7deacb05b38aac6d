import OutboundHttp.Text.Digits
import OutboundHttp.Text.Percent

/-!
# Urls in their normal form

A url as browsers understand it.  The same url may be written in many ways; what is
kept here is the one form in which all of them are written again.
-/
namespace OutboundHttp

/-- Why a text is no url. -/
inductive UrlError where
  | noBase
  | emptyHost
  | badDomain
  | badDomainCharacter
  | badIpv4
  | badIpv6
  | badPort
  deriving DecidableEq, Repr

/-- The wording of an error. -/
def UrlError.message : UrlError → Text
  | .noBase => "relative URL without a base"
  | .emptyHost => "empty host"
  | .badDomain => "invalid international domain name"
  | .badDomainCharacter => "invalid domain character"
  | .badIpv4 => "invalid IPv4 address"
  | .badIpv6 => "invalid IPv6 address"
  | .badPort => "invalid port number"

/-- The path of a url. -/
inductive UrlPath where
  /-- A path without structure, behind the scheme. -/
  | opaqueText (text : Text)
  /-- Segments, each with a slash before it. -/
  | segments (segments : List Text)
  deriving DecidableEq, Repr

/-- A url in its normal form. -/
structure Url where
  scheme : Text
  /-- There are two slashes behind the scheme. -/
  hasAuthority : Bool
  /-- What stands before the host, with the at sign. -/
  userinfo : Text
  host : Option Text
  /-- The port, unless it is that of the scheme. -/
  port : Option UInt16
  path : UrlPath
  query : Option Text
  fragment : Option Text
  deriving DecidableEq, Repr

namespace Url

/-- The text of a path. -/
def pathText : UrlPath → Text
  | .opaqueText text => text
  | .segments segments => segments.flatMap ('/' :: ·)

/-- The text of a url.  Without an authority a path may not begin like one. -/
def text (url : Url) : Text :=
  let authority :=
    if url.hasAuthority then
      let port := match url.port with
        | some port => ':' :: Text.ofNat port.toNat
        | none => []
      '/' :: '/' :: (url.userinfo ++ url.host.getD [] ++ port)
    else []
  let path := pathText url.path
  let guard : Text :=
    if !url.hasAuthority && ['/', '/'].isPrefixOf path then ['/', '.'] else []
  let query := match url.query with
    | some query => '?' :: query
    | none => []
  let fragment := match url.fragment with
    | some fragment => '#' :: fragment
    | none => []
  url.scheme ++ ':' :: (authority ++ guard ++ path ++ query ++ fragment)

/-- The schemes whose urls have a host and a path, with their ports. -/
def schemePort? (scheme : Text) : Option UInt16 :=
  [("http", 80), ("https", 443), ("ws", 80), ("wss", 443), ("ftp", 21)].lookup
    (String.ofList scheme)

/-- The scheme is that of files. -/
def isFile (scheme : Text) : Bool :=
  scheme == "file".toList

/-- The scheme is one that browsers know. -/
def isSpecial (scheme : Text) : Bool :=
  (schemePort? scheme).isSome || isFile scheme

/-- The character is a control character or none of ASCII. -/
def isControl (c : Char) : Bool :=
  c.toNat < 0x20 || 0x7F ≤ c.toNat

/-- The character is escaped in a fragment. -/
def isFragmentEscape (c : Char) : Bool :=
  isControl c || " \"<>`".toList.contains c

/-- The character is escaped in a path. -/
def isPathEscape (c : Char) : Bool :=
  isFragmentEscape c || "#?\x7b\x7d".toList.contains c

/-- The character is escaped in a user name or a password. -/
def isUserinfoEscape (c : Char) : Bool :=
  isPathEscape c || "/:;=@[\\]^|".toList.contains c

/-- The character is escaped in a query. -/
def isQueryEscape (special : Bool) (c : Char) : Bool :=
  isControl c || " \"#<>".toList.contains c || (special && c == '\'')

/-- The text with the characters of a class percent coded. -/
def escapeWhere (cls : Char → Bool) (text : Text) : Text :=
  text.flatMap fun c =>
    if cls c then (String.utf8EncodeChar c).flatMap Percent.triple else [c]

end Url
end OutboundHttp
