import OutboundHttp.Json.Reader
import OutboundHttp.Text.Quoted

/-!
# Reading JSON of a wanted kind

A reader that knows what it wants stops at the first value of another kind and says
what it found and what it wanted.  A record may be written as an object, in which
unknown members are passed over, or as a list of its fields in order.
-/
namespace OutboundHttp
namespace Json

/-- A reader of values that may open some more arrays and objects. -/
abbrev Reader (α : Type) := (depth : Nat) → Cursor → Except Fault (α × Cursor)

/-- The fault of a value that is not what was wanted. -/
def unwanted (c : Cursor) (wanted : Text) : Fault :=
  let wrong (found : Text) (c : Cursor) : Fault := c.fault (.wrongKind found wanted)
  let wordThen (letters : List Char) (found : Text) : Fault :=
    match readWord c.advance letters with
    | .ok c => wrong found c
    | .error fault => fault
  let numberThen (c : Cursor) (positive : Bool) : Fault :=
    match readNumber c positive with
    | .ok (n, c) => wrong (JsonNumber.describe n) c
    | .error fault => fault
  match c.peek? with
  | some 'n' => wordThen ['u', 'l', 'l'] "null"
  | some 't' => wordThen ['r', 'u', 'e'] "boolean `true`"
  | some 'f' => wordThen ['a', 'l', 's', 'e'] "boolean `false`"
  | some '-' => numberThen c.advance false
  | some '"' =>
    match readText c.advance with
    | .ok (t, c) => wrong (("string " : Text) ++ Text.quoted t) c
    | .error fault => fault
  | some '[' => wrong "sequence" c
  | some '{' => wrong "map" c
  | some d => if d.isDigit then numberThen c true else c.faultAhead .expectedValue
  | none => c.faultAhead .expectedValue

/-- The cursor at the next value, which there must be. -/
def atValue (c : Cursor) : Except Fault Cursor :=
  let c := c.skipSpace
  if c.rest.isEmpty then .error (c.faultAhead .endInValue) else .ok c

namespace Reader

/-- Any value. -/
def any : Reader Json := readValue

/-- A text. -/
def text : Reader Text := fun _ c => do
  let c ← atValue c
  match c.peek? with
  | some '"' => readText c.advance
  | _ => throw (unwanted c "a string")

/-- A truth value. -/
def flag : Reader Bool := fun _ c => do
  let c ← atValue c
  match c.peek? with
  | some 't' => return (true, ← readWord c.advance ['r', 'u', 'e'])
  | some 'f' => return (false, ← readWord c.advance ['a', 'l', 's', 'e'])
  | _ => throw (unwanted c "a boolean")

/-- A number, or the fault of a value that is none. -/
def number (wanted : Text) : Reader JsonNumber := fun _ c => do
  let c ← atValue c
  match c.peek? with
  | some '-' => readNumber c.advance false
  | some d => if d.isDigit then readNumber c true else throw (unwanted c wanted)
  | none => throw (unwanted c wanted)

/-- A whole number that is not negative and fits a width. -/
def unsigned (bits : Nat) : Reader Nat := fun depth c => do
  let wanted : Text := 'u' :: Text.ofNat bits
  let (n, c) ← number wanted depth c
  match n with
  | .natural k =>
    if k < Decimal.twoTo bits then return (k, c)
    else throw (c.fault (.wrongValue (JsonNumber.describe n) wanted))
  | .negative _ => throw (c.fault (.wrongValue (JsonNumber.describe n) wanted))
  | .float _ => throw (c.fault (.wrongKind (JsonNumber.describe n) wanted))

/-- A floating-point number; whole numbers are taken too. -/
def float : Reader Float := fun depth c => do
  let (n, c) ← number "f64" depth c
  match n with
  | .natural k => return (k.toUInt64.toFloat, c)
  | .negative k => return (-k.toUInt64.toFloat, c)
  | .float x => return (x, c)

/-- A list. -/
def list {α : Type} (item : Reader α) : Reader (List α) := fun depth c => do
  let c ← atValue c
  match c.peek?, depth with
  | some '[', 0 => throw (c.faultAhead .tooDeep)
  | some '[', depth + 1 =>
    let (items, c) ← readItems (item depth) (c.rest.length + 1) c.advance true
    return (items, ← endList c)
  | _, _ => throw (unwanted c "a sequence")

/-- An object whose members all are of one kind. -/
def members {α : Type} (value : Reader α) : Reader (List (Text × α)) := fun depth c => do
  let c ← atValue c
  match c.peek?, depth with
  | some '{', 0 => throw (c.faultAhead .tooDeep)
  | some '{', depth + 1 =>
    let (members, c) ← readMembers (value depth) (c.rest.length + 1) c.advance true
    return (members, c.advance)
  | _, _ => throw (unwanted c "a map")

/-- The same value under a function. -/
def map {α β : Type} (f : α → β) (value : Reader α) : Reader β := fun depth c => do
  let (v, c) ← value depth c
  return (f v, c)

/-- A value whose meaning may be refused; such a fault has no place. -/
def refine {α β : Type} (f : α → Except Text β) (value : Reader α) : Reader β :=
  fun depth c => do
    let (v, c) ← value depth c
    match f v with
    | .ok w => return (w, c)
    | .error message => throw ⟨.meaning message, none⟩

/-- A field of a record: its name, how its value is read, and the value it has when it
is missing, if it may be. -/
structure Field (α : Type) where
  name : Text
  value : Reader α
  default : Option α

/-- The place of a fault of a whole record: behind its closing bracket if that follows. -/
def behindClose (close : Char) (c : Cursor) : Cursor :=
  let c := c.skipSpace
  if c.peek? = some close then c.advance else c

/-- Reads the fields of a record from the members of an object. -/
def fieldsByName {α : Type} (fields : List (Field α)) (depth : Nat) :
    Nat → Cursor → (first : Bool) → (found : List (Text × α)) →
      Except Fault (List (Text × α) × Cursor)
  | 0, c, _, _ => .error (c.fault .endInObject)
  | fuel + 1, c, first, found => do
    let (more, c) ← nextMember c first
    if !more then return (found, c)
    let (name, c) ← readText c
    match fields.find? (·.name == name) with
    | none =>
      let c ← readColon c
      let c ← skipValue c
      fieldsByName fields depth fuel c false found
    | some field =>
      if (found.lookup name).isSome then
        throw ((behindClose '}' c).fault (.repeatedMember name))
      let c ← readColon c
      let (v, c) ← field.value depth c
      fieldsByName fields depth fuel c false ((name, v) :: found)

/-- Reads the fields of a record from the items of a list. -/
def fieldsInOrder {α : Type} (wanted : Text) (depth : Nat) :
    List (Field α) → (read : Nat) → Cursor → Except Fault (List (Text × α) × Cursor)
  | [], _, c => .ok ([], c)
  | field :: fields, read, c => do
    let (more, c) ← nextItem c (read == 0)
    if more then
      let (v, c) ← field.value depth c
      let (values, c) ← fieldsInOrder wanted depth fields (read + 1) c
      return ((field.name, v) :: values, c)
    else if field.default.isSome then
      fieldsInOrder wanted depth fields read c
    else throw ((behindClose ']' c).fault (.wrongLength read wanted))

/-- The value of every field in order, or the fault of the first that is missing. -/
def complete {α : Type} (found : List (Text × α)) (c : Cursor) :
    List (Field α) → Except Fault (List (Text × α))
  | [] => .ok []
  | field :: fields =>
    match (found.lookup field.name).or field.default with
    | none => .error (c.fault (.missingMember field.name))
    | some v => do
      let rest ← complete found c fields
      return (field.name, v) :: rest

/-- A record with a name and fields. -/
def record {α : Type} (name : Text) (fields : List (Field α)) : Reader (List (Text × α)) :=
  fun depth c => do
    let c ← atValue c
    let wanted : Text := ("struct " : Text) ++ name
    match c.peek?, depth with
    | some '[', 0 => throw (c.faultAhead .tooDeep)
    | some '{', 0 => throw (c.faultAhead .tooDeep)
    | some '[', depth + 1 =>
      let all := wanted ++ (" with " : Text) ++ Text.ofNat fields.length ++ (" elements" : Text)
      let (found, c) ← fieldsInOrder all depth fields 0 c.advance
      let c ← endList c
      return (← complete found c fields, c)
    | some '{', depth + 1 =>
      let (found, c) ← fieldsByName fields depth (c.rest.length + 1) c.advance true []
      let values ← complete found c.advance fields
      return (values, c.advance)
    | _, _ => throw (unwanted c wanted)

/-- Reads a whole text. -/
def run {α : Type} (reader : Reader α) (text : Text) : Except Fault α :=
  readAll (reader depthLimit) text

end Reader
end Json
end OutboundHttp
