import OutboundHttp.Text.Digits
import OutboundHttp.Text.Unseen

/-!
# Quoted text

Where a text is shown to a programmer it stands between quotation marks.  A quotation
mark, a backslash and the usual control characters are written with a backslash before
them, and a character that cannot be seen by itself as its number in braces.
-/
namespace OutboundHttp
namespace Text

/-- A character as it stands between quotation marks. -/
def quotedChar (c : Char) : Text :=
  if c = '"' ∨ c = '\\' then ['\\', c]
  else if c = '\n' then ['\\', 'n']
  else if c = '\r' then ['\\', 'r']
  else if c = '\t' then ['\\', 't']
  else if c = Char.ofNat 0 then ['\\', '0']
  else if isUnseen c then '\\' :: 'u' :: '{' :: (hexOfNat 1 c.toNat ++ ['}'])
  else [c]

/-- A text between quotation marks. -/
def quoted (text : Text) : Text :=
  '"' :: (text.flatMap quotedChar ++ ['"'])

end Text
end OutboundHttp
