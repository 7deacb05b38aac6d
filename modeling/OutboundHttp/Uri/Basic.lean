import OutboundHttp.Text.Blank
import OutboundHttp.Text.Digits

/-!
# Uris

A uri is a text that has been read, together with the parts that the reading found in
it.  A part that does not occur is empty; the port, a number, is then missing.  Two
uris are the same when their texts are.
-/
namespace OutboundHttp

/-- The parts of a uri. -/
structure UriParts where
  /-- What stands before the first colon, if it is a scheme. -/
  scheme : Text := []
  /-- A name, an address, or an address of the long form in its brackets. -/
  host : Text := []
  port : Option UInt16 := none
  /-- The path as written, with its leading slash if it has one. -/
  path : Text := []
  /-- What follows the question mark. -/
  query : Text := []
  /-- What follows the number sign. -/
  fragment : Text := []
  deriving DecidableEq, Repr

/-- A uri: its text and the parts read from it. -/
structure Uri extends UriParts where
  /-- The whole text. -/
  text : Text
  deriving DecidableEq, Repr

/-- Why a text is no uri. -/
inductive UriError where
  /-- The text does not follow the grammar. -/
  | malformed (text : Text)
  /-- There is a scheme and a path but no host. -/
  | hostless (text : Text)
  /-- The port is above 65535. -/
  | portTooLarge (text : Text)
  deriving DecidableEq, Repr

/-- The wording of an error. -/
def UriError.message : UriError → Text
  | .malformed text => ("Uri didn't match expected pattern: " : Text) ++ text
  | .hostless text => ("Uri has a scheme and a path but no host: " : Text) ++ text
  | .portTooLarge text => ("Invalid port in uri: " : Text) ++ text

namespace UriParts

/-- The text that parts are written as.  A blank scheme or host is left out, and so is
the port of a missing host; a path gets a slash between it and a host. -/
def compose (parts : UriParts) : Text :=
  let scheme := if Text.isBlank parts.scheme then [] else parts.scheme ++ [':']
  let port := match parts.port with
    | some port => ':' :: Text.ofNat port.toNat
    | none => []
  let authority := if Text.isBlank parts.host then [] else '/' :: '/' :: (parts.host ++ port)
  let path :=
    if parts.path.isEmpty then []
    else if !Text.isBlank parts.host && parts.path.head? != some '/' then '/' :: parts.path
    else parts.path
  let query := if parts.query.isEmpty then [] else '?' :: parts.query
  let fragment := if parts.fragment.isEmpty then [] else '#' :: parts.fragment
  scheme ++ authority ++ path ++ query ++ fragment

end UriParts
end OutboundHttp
