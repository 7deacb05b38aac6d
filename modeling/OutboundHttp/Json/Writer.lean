import OutboundHttp.Decimal.Layout
import OutboundHttp.Json.Value

/-!
# Writing JSON

Values are written without white space.  In a text only the quotation mark, the
backslash and the control characters are escaped, those that have a letter by it and
the others by their number.
-/
namespace OutboundHttp
namespace Json

/-- A character inside a written text. -/
def escapedChar (c : Char) : Text :=
  if c = '"' then ['\\', '"']
  else if c = '\\' then ['\\', '\\']
  else if c = '\n' then ['\\', 'n']
  else if c = '\r' then ['\\', 'r']
  else if c = '\t' then ['\\', 't']
  else if c = Char.ofNat 8 then ['\\', 'b']
  else if c = Char.ofNat 12 then ['\\', 'f']
  else if c.toNat < 0x20 then '\\' :: 'u' :: Text.hexOfNat 4 c.toNat
  else [c]

/-- A text with the quotation marks around it. -/
def writeText (text : Text) : Text :=
  '"' :: (text.flatMap escapedChar ++ ['"'])

/-- A number; what is no finite number is written as `null`. -/
def writeNumber : JsonNumber → Text
  | .natural n => Text.ofNat n
  | .negative n => '-' :: Text.ofNat n
  | .float x => if x.isFinite then Decimal.Layout.json.write x else "null"

mutual

/-- The text of a value. -/
def write : Json → Text
  | null => "null"
  | bool b => if b then "true" else "false"
  | number n => writeNumber n
  | text t => writeText t
  | array items => '[' :: (writeItems items ++ [']'])
  | object members => '{' :: (writeMembers members ++ ['}'])

/-- The items of an array with commas between them. -/
def writeItems : List Json → Text
  | [] => []
  | [item] => write item
  | item :: next :: items => write item ++ ',' :: writeItems (next :: items)

/-- The members of an object with commas between them. -/
def writeMembers : List (Text × Json) → Text
  | [] => []
  | [(name, value)] => writeText name ++ ':' :: write value
  | (name, value) :: next :: members =>
    writeText name ++ ':' :: (write value ++ ',' :: writeMembers (next :: members))

end

end Json
end OutboundHttp
