import OutboundHttp.Settings.Convert

/-!
# Settings from the environment

A variable whose name begins with the prefix, in letters of either case, is the setting
that the rest of its name names.  Its value is a truth value or a number if it can be
read as one, and a text otherwise.
-/
namespace OutboundHttp
namespace Settings

/-- What the name of a variable begins with, in lower case. -/
def variablePrefix : Text := "mediarr_http_"

/-- The name of a variable in lower case.  Of the letters beyond ASCII only the Kelvin
sign has a letter of ASCII as its lower case, so no other can lead to the name of a
setting. -/
def lowerName (name : Text) : Text :=
  name.map fun c => if c = '\u212A' then 'k' else c.toLower

/-- The setting that the value of a variable stands for. -/
def variableValue (value : Text) : Tree :=
  let word := Text.lowerAscii value
  if word = ("true" : Text) then .bool true
  else if word = ("false" : Text) then .bool false
  else
    match integerValue? value with
    | some n =>
      if Text.fitsInt64 n then .integer n
      else .float ((Decimal.floatValue? value).getD 0.0)
    | none =>
      match Decimal.floatValue? value with
      | some x => .float x
      | none => .text value

/-- The settings among the variables, by name; of two variables for the same setting
the later counts. -/
def ofVariables (environment : List (Text × Text)) : List (Text × Tree) :=
  environment.foldl (fun settings (name, value) =>
    let name := lowerName name
    if variablePrefix.isPrefixOf name then
      insertSorted (name.drop variablePrefix.length) (variableValue value) settings
    else settings) []

end Settings
end OutboundHttp
