import OutboundHttp.Text.Quoted

/-!
# Values shown to a programmer

A record is shown by its name and its fields, an optional value as `Some(…)` or `None`,
a list in brackets and a pair in parentheses.
-/
namespace OutboundHttp
namespace Shown

/-- An optional value. -/
def option (value : Option Text) : Text :=
  match value with
  | none => "None"
  | some shown => ("Some(" : Text) ++ shown ++ [')']

/-- A list. -/
def list (items : List Text) : Text :=
  '[' :: (Text.join ", " items ++ [']'])

/-- A pair of texts. -/
def pair (p : Text × Text) : Text :=
  '(' :: (Text.quoted p.1 ++ (", " : Text) ++ Text.quoted p.2 ++ [')'])

/-- The bindings of a map from texts to texts. -/
def bindings (entries : List (Text × Text)) : Text :=
  '{' :: (Text.join ", " (entries.map fun (k, v) =>
    Text.quoted k ++ (": " : Text) ++ Text.quoted v) ++ ['}'])

/-- The fields of a record with their names. -/
def fields (entries : List (Text × Text)) : Text :=
  Text.join ", " (entries.map fun (name, value) => name ++ (": " : Text) ++ value)

/-- A record of which all fields are shown. -/
def record (name : Text) (entries : List (Text × Text)) : Text :=
  name ++ (" \x7b " : Text) ++ fields entries ++ (" \x7d" : Text)

/-- A record that has more fields than are shown. -/
def partialRecord (name : Text) (entries : List (Text × Text)) : Text :=
  name ++ (" \x7b " : Text) ++ fields entries ++ (", .. \x7d" : Text)

end Shown
end OutboundHttp
