import OutboundHttp.Data.SortedMap
import OutboundHttp.Text.Digits

/-!
# Trees of settings

Settings from every source are kept as a tree.  A later tree is laid over an earlier
one: tables are laid over each other key by key, and anything else replaces what it
meets.
-/
namespace OutboundHttp
namespace Settings

/-- A setting or a table of settings. -/
inductive Tree where
  /-- Nothing yet. -/
  | unset
  | bool (b : Bool)
  | integer (n : Int)
  | float (x : Float)
  | text (t : Text)
  | list (items : List Tree)
  | table (members : List (Text × Tree))
  deriving Repr, Inhabited

namespace Tree

/-- The members of a table; anything else has none. -/
def members : Tree → List (Text × Tree)
  | table members => members
  | _ => []

/-- The items of a list; anything else has none. -/
def items : Tree → List Tree
  | list items => items
  | _ => []

mutual

/-- A tree with another laid over it. -/
def lay : (upper : Tree) → (lower : Tree) → Tree
  | table members, lower => layMembers members lower.members
  | upper, _ => upper

/-- A table with the members of another laid over it. -/
def layMembers : (upper : List (Text × Tree)) → (lower : List (Text × Tree)) → Tree
  | [], lower => table lower
  | (key, upper) :: rest, lower =>
    layMembers rest (insertSorted key (lay upper ((lower.lookup key).getD unset)) lower)

end

/-- One step into a tree. -/
inductive Step where
  | key (name : Text)
  /-- An item of a list; negative numbers count from the end. -/
  | index (n : Int)
  deriving DecidableEq, Repr

/-- The tree with a change made at the end of a path.  What is no table or list but
should be one gives way, and a list grows until it has the wanted item. -/
def changeAt (change : Tree → Tree) : List Step → Tree → Tree
  | [], tree => change tree
  | .key name :: path, tree =>
    let lower := tree.members
    table (insertSorted name (changeAt change path ((lower.lookup name).getD unset)) lower)
  | .index n :: path, tree =>
    let lower := tree.items
    let missing := (-(n + lower.length)).toNat
    let lower := List.replicate (if n < 0 then missing else 0) unset ++ lower
    let place := if n < 0 then (n + lower.length).toNat else n.toNat
    let lower := lower ++ List.replicate (place + 1 - lower.length) unset
    list (lower.set place (changeAt change path (lower[place]?.getD unset)))

end Tree

/-- The character may stand in a name of a path. -/
def isNameChar (c : Char) : Bool :=
  c.isAlphanum || c == '_' || c == '-'

/-- The whole number in brackets, with blanks around it. -/
def bracketed? (text : Text) : Option (Int × Text) :=
  let isBlank (c : Char) := c == ' ' || c == '\t'
  let text := text.dropWhile isBlank
  let (minus, text) := match text with
    | '-' :: rest => (true, rest)
    | rest => (false, rest)
  let digits := text.takeWhile Char.isDigit
  let n := Int.ofNat (Text.ofDigits 10 digits)
  let n := if minus then -n else n
  match (text.drop digits.length).dropWhile isBlank with
  | ']' :: rest =>
    if digits.isEmpty || !Text.fitsInt64 n then none else some (n, rest)
  | _ => none

/-- The steps that a text stands for behind its first name. -/
def stepsFrom : Nat → Text → Option (List Tree.Step)
  | 0, _ => none
  | fuel + 1, text =>
    match text with
    | [] => some []
    | '.' :: rest =>
      let name := rest.takeWhile isNameChar
      if name.isEmpty then none
      else (stepsFrom fuel (rest.drop name.length)).map (.key name :: ·)
    | '[' :: rest =>
      match bracketed? rest with
      | some (n, rest) => (stepsFrom fuel rest).map (.index n :: ·)
      | none => none
    | _ => none

/-- The path that a key at the top stands for: names with points before them and
numbers in brackets.  A key of another form is a name as it is. -/
def path (key : Text) : List Tree.Step :=
  let name := key.takeWhile isNameChar
  let steps := if name.isEmpty then none else stepsFrom (key.length + 1) (key.drop name.length)
  match steps with
  | some steps => .key name :: steps
  | none => [.key key]

/-- The tree with the settings of one source laid over it. -/
def layer (lower : Tree) (source : List (Text × Tree)) : Tree :=
  source.foldl (fun tree (key, upper) => tree.changeAt upper.lay (path key)) lower

end Settings
end OutboundHttp
