import OutboundHttp.Text.Basic

/-!
# TOML documents as they are written

A document is a list of statements: headers of tables, headers of tables in a list, and
keys with values.  What the statements mean together is settled elsewhere.
-/
namespace OutboundHttp
namespace Toml

/-- The names of a key, from the outermost to the innermost. -/
abbrev Key := List Text

/-- A value as it is written. -/
inductive Value where
  | bool (b : Bool)
  | integer (n : Int)
  | float (x : Float)
  | text (t : Text)
  /-- A date, a time, or both, in its standard form. -/
  | moment (t : Text)
  | array (items : List Value)
  | inlineTable (members : List (Key × Value))
  deriving Repr

/-- One line of a document that says something. -/
inductive Statement where
  /-- The keys that follow belong to this table. -/
  | tableHeader (key : Key)
  /-- The keys that follow belong to a new table at the end of this list. -/
  | listHeader (key : Key)
  | binding (key : Key) (value : Value)
  deriving Repr

end Toml
end OutboundHttp
