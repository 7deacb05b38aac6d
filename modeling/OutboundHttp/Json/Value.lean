import OutboundHttp.Data.SortedMap
import OutboundHttp.Text.Basic

/-!
# JSON values

A JSON value.  Whole numbers that fit sixty-four bits are kept as whole numbers and all
other numbers as floating-point ones; the members of an object stand in the order of
their names, each name once.
-/
namespace OutboundHttp

/-- A number of a JSON text. -/
inductive JsonNumber where
  /-- A whole number that is not negative. -/
  | natural (n : Nat)
  /-- The negative whole number `-n`. -/
  | negative (n : Nat)
  | float (x : Float)
  deriving Repr

/-- A JSON value. -/
inductive Json where
  | null
  | bool (b : Bool)
  | number (n : JsonNumber)
  | text (t : Text)
  | array (items : List Json)
  | object (members : List (Text × Json))
  deriving Repr, Inhabited

namespace Json

/-- A whole number. -/
def nat (n : Nat) : Json := number (.natural n)

/-- The object with the given members, of which the last counts for each name. -/
def ofMembers (members : List (Text × Json)) : Json :=
  object (members.foldl (fun sorted m => insertSorted m.1 m.2 sorted) [])

/-- The member of an object under a name. -/
def member? (value : Json) (name : Text) : Option Json :=
  match value with
  | object members => members.lookup name
  | _ => none

end Json
end OutboundHttp
