import OutboundHttp.Settings.Tree
import OutboundHttp.Toml.Reader

/-!
# What a TOML document says

The statements of a document are put together into one tree.  A table may be opened by
a header only once, a key may be bound only once, and keys with points in them may add
only to tables that such keys have made.
-/
namespace OutboundHttp
namespace Toml

open Settings (Tree)

/-- How a table came to be. -/
inductive Origin where
  /-- By its header, or as the whole document. -/
  | header
  /-- As part of the key in the header of another table. -/
  | outerName
  /-- As part of a key with a value. -/
  | dottedKey
  deriving DecidableEq, Repr

/-- What is bound to a name while the document is put together. -/
inductive Node where
  /-- A value to which nothing can be added. -/
  | closed (tree : Tree)
  | table (origin : Origin) (members : List (Text × Node))
  /-- A list of tables, the last of them first. -/
  | tables (latest : List (Text × Node)) (earlier : List (List (Text × Node)))

/-- A table that can be added to. -/
structure Table where
  origin : Origin
  members : List (Text × Node)

/-- The members with a name bound anew. -/
def bind (members : List (Text × Node)) (name : Text) (node : Node) : List (Text × Node) :=
  insertSorted name node members

/-- The table with a change made to the table at the end of a key.  Tables that are
missing are made with the given origin. -/
def changeTable (making : Origin) (change : Table → Option Table) :
    Key → Table → Option Table
  | [], t => change t
  | name :: key, t =>
    match t.members.lookup name with
    | none =>
      (changeTable making change key ⟨making, []⟩).map fun child =>
        { t with members := bind t.members name (.table child.origin child.members) }
    | some (.table origin members) =>
      if making = .dottedKey ∧ origin = .header then none
      else
        (changeTable making change key ⟨origin, members⟩).map fun child =>
          { t with members := bind t.members name (.table child.origin child.members) }
    | some (.tables latest earlier) =>
      (changeTable making change key ⟨.header, latest⟩).map fun child =>
        { t with members := bind t.members name (.tables child.members earlier) }
    | some (.closed _) => none

/-- The table with a value bound to a key. -/
def putValue (key : Key) (tree : Tree) (t : Table) : Option Table :=
  match key.getLast? with
  | none => none
  | some name =>
    changeTable .dottedKey (fun parent =>
      if 1 < key.length ∧ parent.origin ≠ .dottedKey then none
      else if (parent.members.lookup name).isSome then none
      else some { parent with members := bind parent.members name (.closed tree) })
      key.dropLast t

/-- The document with a table opened by its header. -/
def openTable (key : Key) (t : Table) : Option Table :=
  match key.getLast? with
  | none => none
  | some name =>
    changeTable .outerName (fun parent =>
      match parent.members.lookup name with
      | none => some { parent with members := bind parent.members name (.table .header []) }
      | some (.table .outerName members) =>
        some { parent with members := bind parent.members name (.table .header members) }
      | some _ => none) key.dropLast t

/-- The document with a new table at the end of a list. -/
def openListTable (key : Key) (t : Table) : Option Table :=
  match key.getLast? with
  | none => none
  | some name =>
    changeTable .outerName (fun parent =>
      match parent.members.lookup name with
      | none => some { parent with members := bind parent.members name (.tables [] []) }
      | some (.tables latest earlier) =>
        some { parent with members := bind parent.members name (.tables [] (latest :: earlier)) }
      | some _ => none) key.dropLast t

mutual

/-- The tree of a node. -/
def Node.tree : Node → Tree
  | .closed tree => tree
  | .table _ members => .table (treeMembers members)
  | .tables latest earlier =>
    .list ((treeTables earlier).reverse ++ [.table (treeMembers latest)])

/-- The trees of members. -/
def treeMembers : List (Text × Node) → List (Text × Tree)
  | [] => []
  | (name, node) :: rest => (name, node.tree) :: treeMembers rest

/-- The trees of tables. -/
def treeTables : List (List (Text × Node)) → List Tree
  | [] => []
  | members :: rest => .table (treeMembers members) :: treeTables rest

end

mutual

/-- The tree of a value; an inline table may bind no name twice. -/
def Value.tree? : Value → Option Tree
  | .bool b => some (.bool b)
  | .integer n => some (.integer n)
  | .float x => some (.float x)
  | .text t => some (.text t)
  | .moment t => some (.text t)
  | .array items => (itemTrees? items).map .list
  | .inlineTable members =>
    (memberTable? members ⟨.header, []⟩).map fun t => .table (treeMembers t.members)

/-- The trees of items. -/
def itemTrees? : List Value → Option (List Tree)
  | [] => some []
  | v :: rest =>
    match v.tree?, itemTrees? rest with
    | some tree, some trees => some (tree :: trees)
    | _, _ => none

/-- The table with the members of an inline table added. -/
def memberTable? : List (Key × Value) → Table → Option Table
  | [], t => some t
  | (key, v) :: rest, t =>
    match v.tree? with
    | none => none
    | some tree =>
      match putValue key tree t with
      | none => none
      | some t => memberTable? rest t

end

/-- Puts the statements together; `opened` is the key of the table that is open. -/
def assemble : List Statement → (opened : Key) → Table → Option Table
  | [], _, t => some t
  | .tableHeader key :: rest, _, t => (openTable key t).bind (assemble rest key)
  | .listHeader key :: rest, _, t => (openListTable key t).bind (assemble rest key)
  | .binding key v :: rest, opened, t =>
    match v.tree? with
    | none => none
    | some tree => (changeTable .outerName (putValue key tree) opened t).bind (assemble rest opened)

/-- The members of the table that a document stands for, if it is one. -/
def document? (text : Text) : Option (List (Text × Tree)) :=
  match statements? text with
  | none => none
  | some statements =>
    (assemble statements [] ⟨.header, []⟩).map fun t => treeMembers t.members

end Toml
end OutboundHttp
