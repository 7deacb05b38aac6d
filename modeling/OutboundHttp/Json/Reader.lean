import OutboundHttp.Json.Number

/-!
# Reading JSON values

A value is read from left to right and at the first octet that cannot stand there the
reader stops.  Arrays and objects may lie within each other up to a depth of 127.  A
value that nobody wants is passed over without limit to its depth, and with its own
idea of what went wrong.
-/
namespace OutboundHttp
namespace Json

/-- How deep arrays and objects may lie within each other. -/
def depthLimit : Nat := 127

/-- Reads the letters of a word that has begun. -/
def readWord (c : Cursor) : List Char → Except Fault Cursor
  | [] => .ok c
  | letter :: letters =>
    match c.peek? with
    | none => .error (c.fault .endInValue)
    | some d =>
      if d = letter then readWord c.advance letters else .error (c.advance.fault .expectedWord)

/-- Reads four hexadecimal digits. -/
def readHex (c : Cursor) : Except Fault (Nat × Cursor) :=
  let digits := (c.rest.take 4).map fun b => Char.ofNat b.toNat
  if digits.length < 4 then .error ((c.advanceBy 4).fault .endInText)
  else if digits.all Text.isHexDigit then .ok (Text.ofDigits 16 digits, c.advanceBy 4)
  else .error ((c.advanceBy 4).fault .badEscape)

/-- Reads the octet that must follow the first half of a surrogate pair. -/
def readPairMark (c : Cursor) (mark : Char) : Except Fault Cursor :=
  match c.peek? with
  | none => .error (c.fault .endInText)
  | some d => if d = mark then .ok c.advance else .error (c.advance.fault .brokenSurrogatePair)

/-- Reads the number of an escaped character, with its second half if it has two. -/
def readEscapedNumber (c : Cursor) : Except Fault (Char × Cursor) := do
  let (high, c) ← readHex c
  if 0xDC00 ≤ high && high ≤ 0xDFFF then throw (c.fault .loneSurrogate)
  if high < 0xD800 || 0xDBFF < high then return (Char.ofNat high, c)
  let c ← readPairMark c '\\'
  let c ← readPairMark c 'u'
  let (low, c) ← readHex c
  if low < 0xDC00 || 0xDFFF < low then throw (c.fault .loneSurrogate)
  return (Char.ofNat ((high - 0xD800) * 0x400 + (low - 0xDC00) + 0x10000), c)

/-- Reads an escape behind its backslash. -/
def readEscape (c : Cursor) : Except Fault (Char × Cursor) :=
  match c.peek? with
  | none => .error (c.fault .endInText)
  | some d =>
    let c := c.advance
    match d with
    | '"' => .ok ('"', c)
    | '\\' => .ok ('\\', c)
    | '/' => .ok ('/', c)
    | 'b' => .ok (Char.ofNat 8, c)
    | 'f' => .ok (Char.ofNat 12, c)
    | 'n' => .ok ('\n', c)
    | 'r' => .ok ('\r', c)
    | 't' => .ok ('\t', c)
    | 'u' => readEscapedNumber c
    | _ => .error (c.fault .badEscape)

/-- Reads a text behind its first quotation mark; `taken` holds its octets so far, the
latest first. -/
def readTextFrom : Nat → Cursor → (taken : Bytes) → Except Fault (Text × Cursor)
  | 0, c, _ => .error (c.fault .endInText)
  | fuel + 1, c, taken =>
    match c.rest with
    | [] => .error (c.fault .endInText)
    | b :: _ =>
      if b = 0x22 then .ok (Utf8.decodeLossy taken.reverse, c.advance)
      else if b = 0x5C then
        match readEscape c.advance with
        | .error fault => .error fault
        | .ok (d, c) => readTextFrom fuel c ((String.utf8EncodeChar d).reverse ++ taken)
      else if b < 0x20 then .error (c.advance.fault .controlCharacter)
      else readTextFrom fuel c.advance (b :: taken)

/-- Reads a text behind its first quotation mark. -/
def readText (c : Cursor) : Except Fault (Text × Cursor) :=
  readTextFrom (c.rest.length + 1) c []

/-- Is there one more item in the list?  If so the cursor stands at it. -/
def nextItem (c : Cursor) (first : Bool) : Except Fault (Bool × Cursor) :=
  let c := c.skipSpace
  match c.peek? with
  | none => .error (c.faultAhead .endInList)
  | some ']' => .ok (false, c)
  | some d =>
    if first then .ok (true, c)
    else if d = ',' then
      let c := c.advance.skipSpace
      match c.peek? with
      | some ']' => .error (c.faultAhead .trailingComma)
      | some _ => .ok (true, c)
      | none => .error (c.faultAhead .endInValue)
    else .error (c.faultAhead .expectedListEnd)

/-- Reads the end of a list. -/
def endList (c : Cursor) : Except Fault Cursor :=
  let c := c.skipSpace
  match c.peek? with
  | some ']' => .ok c.advance
  | some ',' =>
    let c := c.advance.skipSpace
    match c.peek? with
    | some ']' => .error (c.faultAhead .trailingComma)
    | _ => .error (c.faultAhead .trailingText)
  | some _ => .error (c.faultAhead .trailingText)
  | none => .error (c.faultAhead .endInList)

/-- Is there one more member in the object?  If so the cursor stands behind the first
quotation mark of its name. -/
def nextMember (c : Cursor) (first : Bool) : Except Fault (Bool × Cursor) :=
  let c := c.skipSpace
  match c.peek? with
  | none => .error (c.faultAhead .endInObject)
  | some '}' => .ok (false, c)
  | some d =>
    if first then
      if d = '"' then .ok (true, c.advance) else .error (c.faultAhead .nameNotText)
    else if d = ',' then
      let c := c.advance.skipSpace
      match c.peek? with
      | some '"' => .ok (true, c.advance)
      | some '}' => .error (c.faultAhead .trailingComma)
      | some _ => .error (c.faultAhead .nameNotText)
      | none => .error (c.faultAhead .endInValue)
    else .error (c.faultAhead .expectedObjectEnd)

/-- Reads the colon behind a name. -/
def readColon (c : Cursor) : Except Fault Cursor :=
  let c := c.skipSpace
  match c.peek? with
  | some ':' => .ok c.advance
  | some _ => .error (c.faultAhead .expectedColon)
  | none => .error (c.faultAhead .endInObject)

/-- Reads the items of a list, up to its end. -/
def readItems {α : Type} (item : Cursor → Except Fault (α × Cursor)) :
    Nat → Cursor → (first : Bool) → Except Fault (List α × Cursor)
  | 0, c, _ => .error (c.fault .endInList)
  | fuel + 1, c, first => do
    let (more, c) ← nextItem c first
    if more then
      let (value, c) ← item c
      let (values, c) ← readItems item fuel c false
      return (value :: values, c)
    else
      return ([], c)

/-- Reads the members of an object, up to its end. -/
def readMembers {α : Type} (value : Cursor → Except Fault (α × Cursor)) :
    Nat → Cursor → (first : Bool) → Except Fault (List (Text × α) × Cursor)
  | 0, c, _ => .error (c.fault .endInObject)
  | fuel + 1, c, first => do
    let (more, c) ← nextMember c first
    if more then
      let (name, c) ← readText c
      let c ← readColon c
      let (v, c) ← value c
      let (members, c) ← readMembers value fuel c false
      return ((name, v) :: members, c)
    else
      return ([], c)

/-- Reads any value; `depth` says how many arrays and objects it may still open. -/
def readValue : (depth : Nat) → Cursor → Except Fault (Json × Cursor)
  | depth, c => do
    let c := c.skipSpace
    match c.peek? with
    | none => throw (c.faultAhead .endInValue)
    | some 'n' => return (.null, ← readWord c.advance ['u', 'l', 'l'])
    | some 't' => return (.bool true, ← readWord c.advance ['r', 'u', 'e'])
    | some 'f' => return (.bool false, ← readWord c.advance ['a', 'l', 's', 'e'])
    | some '"' =>
      let (t, c) ← readText c.advance
      return (.text t, c)
    | some '-' =>
      let (n, c) ← readNumber c.advance false
      return (.number n, c)
    | some '[' =>
      match depth with
      | 0 => throw (c.faultAhead .tooDeep)
      | depth + 1 =>
        let (items, c) ← readItems (readValue depth) (c.rest.length + 1) c.advance true
        return (.array items, ← endList c)
    | some '{' =>
      match depth with
      | 0 => throw (c.faultAhead .tooDeep)
      | depth + 1 =>
        let (members, c) ← readMembers (readValue depth) (c.rest.length + 1) c.advance true
        return (.ofMembers members, c.advance)
    | some d =>
      if d.isDigit then
        let (n, c) ← readNumber c true
        return (.number n, c)
      else throw (c.faultAhead .expectedValue)

/-- Passes over a text behind its first quotation mark. -/
def skipText : Nat → Cursor → Except Fault Cursor
  | 0, c => .error (c.fault .endInText)
  | fuel + 1, c =>
    match c.rest with
    | [] => .error (c.fault .endInText)
    | b :: _ =>
      if b = 0x22 then .ok c.advance
      else if b = 0x5C then
        let c := c.advance
        match c.peek? with
        | none => .error (c.fault .endInText)
        | some 'u' =>
          match readHex c.advance with
          | .error fault => .error fault
          | .ok (_, c) => skipText fuel c
        | some d =>
          if "\"\\/bfnrt".toList.contains d then skipText fuel c.advance
          else .error (c.advance.fault .badEscape)
      else if b < 0x20 then .error (c.fault .controlCharacter)
      else skipText fuel c.advance

/-- Passes over an exponent, at its letter. -/
def skipExponent (c : Cursor) : Except Fault Cursor :=
  let c := c.advance
  let c := match c.peek? with
    | some '+' | some '-' => c.advance
    | _ => c
  match c.peek? with
  | some d => if d.isDigit then .ok c.skipDigits else .error (c.advance.fault .badNumber)
  | none => .error (c.fault .badNumber)

/-- Passes over a number at its first digit, behind any sign. -/
def skipNumber (c : Cursor) : Except Fault Cursor := do
  let c ← match c.peek? with
    | some '0' =>
      let c := c.advance
      match c.peek? with
      | some d => if d.isDigit then throw (c.faultAhead .badNumber) else pure c
      | none => pure c
    | some d => if d.isDigit then pure c.skipDigits else throw (c.advance.fault .badNumber)
    | none => throw (c.fault .badNumber)
  match c.peek? with
  | some '.' =>
    let c := c.advance
    let after := c.skipDigits
    if after.rest.length = c.rest.length then throw (c.faultAhead .badNumber)
    match after.peek? with
    | some 'e' | some 'E' => skipExponent after
    | _ => return after
  | some 'e' | some 'E' => skipExponent c
  | _ => return c

/-- What is open around a value that is passed over. -/
inductive Bracket where
  | list
  | object
  deriving DecidableEq, Repr

/-- Where the passing over has come to: at a value, or behind one, where a comma may
stand, or behind an opening bracket, where none may. -/
inductive SkipState where
  | value
  | behind (commaAllowed : Bool)
  deriving DecidableEq, Repr

/-- Passes over a name and its colon, if the innermost bracket is that of an object. -/
def skipName (bracket : Bracket) (c : Cursor) : Except Fault Cursor :=
  match bracket with
  | .list => .ok c
  | .object => do
    let c := c.skipSpace
    match c.peek? with
    | some '"' =>
      let c ← skipText (c.rest.length + 1) c.advance
      readColon c
    | some _ => throw (c.faultAhead .nameNotText)
    | none => throw (c.faultAhead .endInObject)

/-- Passes over one value, whatever lies within it; `opened` lists the open brackets,
the innermost first. -/
def skipFrom : Nat → SkipState → (opened : List Bracket) → Cursor → Except Fault Cursor
  | 0, _, _, c => .error (c.fault .endInValue)
  | fuel + 1, .value, opened, c => do
    let c := c.skipSpace
    match c.peek? with
    | none => throw (c.faultAhead .endInValue)
    | some '[' => skipFrom fuel (.behind false) (.list :: opened) c.advance
    | some '{' => skipFrom fuel (.behind false) (.object :: opened) c.advance
    | some d =>
      let c ← match d with
        | 'n' => readWord c.advance ['u', 'l', 'l']
        | 't' => readWord c.advance ['r', 'u', 'e']
        | 'f' => readWord c.advance ['a', 'l', 's', 'e']
        | '"' => skipText (c.rest.length + 1) c.advance
        | '-' => skipNumber c.advance
        | d => if d.isDigit then skipNumber c else throw (c.faultAhead .expectedValue)
      match opened with
      | [] => return c
      | _ => skipFrom fuel (.behind true) opened c
  | _ + 1, .behind _, [], c => .ok c
  | fuel + 1, .behind commaAllowed, bracket :: opened, c => do
    let c := c.skipSpace
    let close : Char := if bracket = .list then ']' else '}'
    match c.peek? with
    | none => throw (c.faultAhead (if bracket = .list then .endInList else .endInObject))
    | some d =>
      if d = ',' && commaAllowed then
        skipFrom fuel .value (bracket :: opened) (← skipName bracket c.advance)
      else if d = close then
        match opened with
        | [] => return c.advance
        | _ => skipFrom fuel (.behind true) opened c.advance
      else if commaAllowed then
        throw (c.faultAhead (if bracket = .list then .expectedListEnd else .expectedObjectEnd))
      else skipFrom fuel .value (bracket :: opened) (← skipName bracket c)

/-- Passes over one value. -/
def skipValue (c : Cursor) : Except Fault Cursor :=
  skipFrom (2 * c.rest.length + 2) .value [] c

/-- Reads a whole text with a reader of values. -/
def readAll {α : Type} (value : Cursor → Except Fault (α × Cursor)) (text : Text) :
    Except Fault α := do
  let (v, c) ← value (.start (Utf8.encode text))
  let c := c.skipSpace
  if c.rest.isEmpty then return v else throw (c.faultAhead .trailingText)

/-- Reads a whole text as any value. -/
def parse (text : Text) : Except Fault Json :=
  readAll (readValue depthLimit) text

end Json
end OutboundHttp
