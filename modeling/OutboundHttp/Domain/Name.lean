import OutboundHttp.Domain.Direction
import OutboundHttp.Domain.Folding
import OutboundHttp.Domain.Joiner
import OutboundHttp.Text.Punycode

/-!
# Domain names

A name is a list of labels with points between them.  However it is written, it is sent
in ASCII: folded, and each label that holds other characters in its coded form.  A label
that comes in coded form must be the code of a label that could have been written out.
-/
namespace OutboundHttp
namespace Domain

/-- The character delimits parts of a url, or is a control character or a space. -/
def isForbidden (c : Char) : Bool :=
  c.toNat ≤ 0x20 || c.toNat == 0x7F || "%#/:<>?@[\\]^|".toList.contains c

/-- The text holds characters of ASCII only. -/
def isAscii (text : Text) : Bool :=
  text.all fun c => c.toNat < 0x80

/-- What a label in coded form begins with. -/
def codedMark : Text := "xn--"

/-- How long the code of a label may be. -/
def codeLimit : Nat := 2000

/-- How long a label beyond ASCII may be. -/
def labelLimit : Nat := 1000

/-- Folding leaves the text as it is. -/
def isFolded (text : Text) : Bool :=
  fold? text == some text

/-- The label that a folded label stands for. -/
def written? (label : Text) : Option Text :=
  if codedMark.isPrefixOf label then do
    let code := label.drop codedMark.length
    if !isAscii code || codeLimit < code.length then none
    else (Punycode.decode? code).filter fun decoded => !isAscii decoded && isFolded decoded
  else some label

/-- The label in its written form may stand in a name, whatever the others are. -/
def isFit (label : Text) : Bool :=
  !label.head?.any Text.isMark && joinersFit [] label &&
    (isAscii label || label.length ≤ labelLimit)

/-- The label in ASCII. -/
def labelText (label : Text) : Text :=
  if isAscii label then label else codedMark ++ Punycode.encode label

/-- A name in lower case and in ASCII, if it is one. -/
def nameText? (name : Text) : Option Text := do
  let folded ← fold? name
  if folded.any isForbidden then none
  else
    let labels ← (Text.splitOn '.' folded).mapM written?
    if labels.all isFit && (!labels.any turnsRight || labels.all keepsDirection) then
      some (Text.join ['.'] (labels.map labelText))
    else none

end Domain
end OutboundHttp
