import OutboundHttp.Toml.Scalar

/-!
# Reading TOML documents

A document is read statement by statement, each on a line of its own.  Inside brackets
and braces lines may break and comments may stand anywhere but within a key, and a comma
may follow the last item.  Arrays and inline tables may lie within each other up to a
depth of eighty, and a key has at most as many names.
-/
namespace OutboundHttp
namespace Toml

/-- Past blanks and tabs. -/
def skipBlanks (text : Text) : Text :=
  text.dropWhile fun c => c == ' ' || c == '\t'

/-- The control character may not stand in comments and texts. -/
def isControl (c : Char) : Bool :=
  (c.toNat < 0x20 && c != '\t') || c.toNat == 0x7F

/-- Past the end of a line, if the text stands at one. -/
def lineEnd? : Text → Option Text
  | '\n' :: rest => some rest
  | '\r' :: '\n' :: rest => some rest
  | _ => none

/-- Past a comment, if the text stands at one. -/
def skipComment : Text → Text
  | '#' :: rest => rest.dropWhile fun c => !isControl c
  | text => text

/-- Past the rest of a line on which nothing more is said. -/
def endOfLine? (text : Text) : Option Text :=
  match skipComment (skipBlanks text) with
  | [] => some []
  | rest => lineEnd? rest

/-- Past blanks, comments and ends of lines. -/
def skipLines : Nat → Text → Option Text
  | 0, text => some text
  | fuel + 1, text =>
    match skipBlanks text with
    | [] => some []
    | c :: rest =>
      if c = '#' ∨ c = '\n' ∨ c = '\r' then
        match endOfLine? (c :: rest) with
        | some rest => skipLines fuel rest
        | none => none
      else some (c :: rest)

/-- Past blanks, comments and ends of lines. -/
def skipGap (text : Text) : Option Text :=
  skipLines (text.length + 1) text

/-- The character with a number written in `n` hexadecimal digits. -/
def hexChar? (n : Nat) (text : Text) : Option (Char × Text) :=
  let digits := text.take n
  if digits.length = n ∧ digits.all Text.isHexDigit then
    let value := Text.ofDigits 16 digits
    if value.isValidChar then some (Char.ofNat value, text.drop n) else none
  else none

/-- The character that an escape stands for, behind its backslash. -/
def escape? : Text → Option (Char × Text)
  | [] => none
  | c :: rest =>
    match c with
    | 'b' => some (Char.ofNat 8, rest)
    | 't' => some ('\t', rest)
    | 'n' => some ('\n', rest)
    | 'f' => some (Char.ofNat 12, rest)
    | 'r' => some ('\r', rest)
    | 'e' => some (Char.ofNat 27, rest)
    | '"' => some ('"', rest)
    | '\\' => some ('\\', rest)
    | 'x' => hexChar? 2 rest
    | 'u' => hexChar? 4 rest
    | 'U' => hexChar? 8 rest
    | _ => none

/-- Reads a text in quotation marks on one line, behind the first mark; `taken` holds
its characters so far, the latest first. -/
def basicText : Nat → Text → (taken : Text) → Option (Text × Text)
  | 0, _, _ => none
  | fuel + 1, text, taken =>
    match text with
    | [] => none
    | '"' :: rest => some (taken.reverse, rest)
    | '\\' :: rest =>
      match escape? rest with
      | some (c, rest) => basicText fuel rest (c :: taken)
      | none => none
    | c :: rest => if isControl c then none else basicText fuel rest (c :: taken)

/-- Reads a text in apostrophes on one line, behind the first one. -/
def literalText (text : Text) : Option (Text × Text) :=
  let inside := text.takeWhile fun c => c != '\'' && !isControl c
  match text.drop inside.length with
  | '\'' :: rest => some (inside, rest)
  | _ => none

/-- The character with which a text on many lines may go on, at its front. -/
def rawChar? : Text → Option (Text × Text)
  | [] => none
  | '\n' :: rest => some (['\n'], rest)
  | '\r' :: '\n' :: rest => some (['\n', '\r'], rest)
  | c :: rest => if isControl c then none else some ([c], rest)

/-- The end of a text on many lines: three marks, before which one or two more belong
to the text. -/
def closing? (mark : Char) (text : Text) : Option (Nat × Text) :=
  let marks := (text.takeWhile (· == mark)).length
  if marks < 3 then none
  else
    let extra := min 2 (marks - 3)
    some (extra, text.drop (extra + 3))

/-- Past blanks, tabs and ends of lines. -/
def skipWhite : Text → Text
  | '\r' :: '\n' :: rest => skipWhite rest
  | c :: rest => if c = ' ' ∨ c = '\t' ∨ c = '\n' then skipWhite rest else c :: rest
  | [] => []

/-- Past a line end behind a backslash, and past all white space that follows. -/
def lineJoin? (text : Text) : Option Text :=
  (lineEnd? (skipBlanks text)).map skipWhite

/-- Reads a text on many lines, behind its first three marks. -/
def longText (mark : Char) : Nat → Text → (taken : Text) → Option (Text × Text)
  | 0, _, _ => none
  | fuel + 1, text, taken =>
    match closing? mark text with
    | some (extra, rest) => some ((List.replicate extra mark ++ taken).reverse, rest)
    | none =>
      match mark, text with
      | '"', '\\' :: rest =>
        match lineJoin? rest with
        | some rest => longText mark fuel rest taken
        | none =>
          match escape? rest with
          | some (c, rest) => longText mark fuel rest (c :: taken)
          | none => none
      | _, text =>
        match rawChar? text with
        | some (c, rest) => longText mark fuel rest (c ++ taken)
        | none => none

/-- Past the line end that may follow the first marks of a text on many lines. -/
def dropFirstLineEnd (text : Text) : Text :=
  (lineEnd? text).getD text

/-- Reads a text in marks on one line. -/
def shortText? : Text → Option (Text × Text)
  | '"' :: rest => basicText (rest.length + 1) rest []
  | '\'' :: rest => literalText rest
  | _ => none

/-- Reads a text value. -/
def text? : Text → Option (Text × Text)
  | '"' :: '"' :: '"' :: rest =>
    let rest := dropFirstLineEnd rest
    longText '"' (rest.length + 1) rest []
  | '\'' :: '\'' :: '\'' :: rest =>
    let rest := dropFirstLineEnd rest
    longText '\'' (rest.length + 1) rest []
  | text => shortText? text

/-- The character may stand in a name without marks. -/
def isBareChar (c : Char) : Bool :=
  c.isAlphanum || c == '-' || c == '_'

/-- Reads one name of a key. -/
def name? (text : Text) : Option (Text × Text) :=
  match text with
  | '"' :: _ | '\'' :: _ => shortText? text
  | text =>
    let bare := text.takeWhile isBareChar
    if bare.isEmpty then none else some (bare, text.drop bare.length)

/-- Reads the names of a key, with the blanks around them. -/
def keyFrom : Nat → Text → Option (Key × Text)
  | 0, _ => none
  | fuel + 1, text =>
    match name? (skipBlanks text) with
    | none => none
    | some (name, rest) =>
      match skipBlanks rest with
      | '.' :: rest =>
        match keyFrom fuel rest with
        | some (names, rest) => some (name :: names, rest)
        | none => none
      | rest => some ([name], rest)

/-- How deep arrays and inline tables may lie within each other, and how many names a
key may have. -/
def depthLimit : Nat := 80

/-- Reads a key. -/
def key? (text : Text) : Option (Key × Text) :=
  (keyFrom (text.length + 1) text).filter fun (key, _) => key.length ≤ depthLimit

/-- Reads a key, the equals sign and a value on the same line. -/
def binding? (value : Text → Option (Value × Text)) (text : Text) :
    Option ((Key × Value) × Text) :=
  match key? text with
  | some (key, '=' :: rest) =>
    match value (skipBlanks rest) with
    | some (v, rest) => some ((key, v), rest)
    | none => none
  | _ => none

/-- Reads a member of an inline table, in which lines may break around the equals sign. -/
def member? (value : Text → Option (Value × Text)) (text : Text) :
    Option ((Key × Value) × Text) := do
  let (key, rest) ← key? text
  match ← skipGap rest with
  | '=' :: rest =>
    let (v, rest) ← value (← skipGap rest)
    return ((key, v), rest)
  | _ => none

/-- Reads items with commas between them up to a closing mark. -/
def itemsFrom {α : Type} (item : Text → Option (α × Text)) (close : Char) :
    Nat → Text → Option (List α × Text)
  | 0, _ => none
  | fuel + 1, text =>
    match skipGap text with
    | none => none
    | some [] => none
    | some (c :: rest) =>
      if c = close then some ([], rest)
      else
        match item (c :: rest) with
        | none => none
        | some (a, rest) =>
          match skipGap rest with
          | some (',' :: rest) =>
            match itemsFrom item close fuel rest with
            | some (items, rest) => some (a :: items, rest)
            | none => none
          | some (d :: rest) => if d = close then some ([a], rest) else none
          | _ => none

/-- The word at the front of a text; a blank between a date and a time belongs to it. -/
def takeWord (text : Text) : Text × Text :=
  let word := text.takeWhile isWordChar
  let rest := text.drop word.length
  match takeDate word, rest with
  | some (_, []), ' ' :: c :: _ =>
    if c.isDigit then
      let time := (rest.drop 1).takeWhile isWordChar
      (word ++ ' ' :: time, rest.drop (time.length + 1))
    else (word, rest)
  | _, _ => (word, rest)

/-- Reads a value; `depth` says how many arrays and tables it may still open. -/
def value? : (depth : Nat) → Text → Option (Value × Text)
  | depth, text =>
    match text with
    | '"' :: _ | '\'' :: _ => (text? text).map fun (t, rest) => (.text t, rest)
    | '[' :: rest =>
      match depth with
      | 0 => none
      | depth + 1 =>
        (itemsFrom (value? depth) ']' (rest.length + 1) rest).map fun (items, rest) =>
          (.array items, rest)
    | '{' :: rest =>
      match depth with
      | 0 => none
      | depth + 1 =>
        (itemsFrom (member? (value? depth)) '}' (rest.length + 1) rest).map
          fun (members, rest) => (.inlineTable members, rest)
    | text =>
      let (word, rest) := takeWord text
      (word? word).map fun v => (v, rest)

/-- Reads a header behind its brackets. -/
def header? (close : Text) (text : Text) : Option (Key × Text) :=
  match key? text with
  | some (key, rest) => if close.isPrefixOf rest then some (key, rest.drop close.length) else none
  | none => none

/-- Reads one statement, without the rest of its line. -/
def statement? : Text → Option (Statement × Text)
  | '[' :: '[' :: rest => (header? [']', ']'] rest).map fun (key, rest) => (.listHeader key, rest)
  | '[' :: rest => (header? [']'] rest).map fun (key, rest) => (.tableHeader key, rest)
  | text => (binding? (value? depthLimit) text).map fun (b, rest) => (.binding b.1 b.2, rest)

/-- Reads the statements of a document. -/
def statementsFrom : Nat → Text → Option (List Statement)
  | 0, _ => none
  | fuel + 1, text =>
    match skipGap text with
    | none => none
    | some [] => some []
    | some text =>
      match statement? text with
      | none => none
      | some (statement, rest) =>
        match endOfLine? rest with
        | none => none
        | some rest => (statementsFrom fuel rest).map (statement :: ·)

/-- Reads a document, before which a byte order mark may stand. -/
def statements? (text : Text) : Option (List Statement) :=
  let text := if text.head? = some '\uFEFF' then text.drop 1 else text
  statementsFrom (text.length + 1) text

end Toml
end OutboundHttp
