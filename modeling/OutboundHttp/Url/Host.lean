import OutboundHttp.Domain.Name
import OutboundHttp.Url.Basic

/-!
# Hosts of urls

A host is a name in lower case and in ASCII, or an address of the short or the long
form, written in its usual way.
-/
namespace OutboundHttp
namespace Url

/-- A number of a short address: decimal, octal behind a zero, or hexadecimal.  The
outer level is missing for what is no number, the inner for one that is too large. -/
def ipv4Number? (text : Text) : Option (Option Nat) :=
  let (base, digits) : Nat × Text := match text with
    | '0' :: 'x' :: rest => (16, rest)
    | '0' :: 'X' :: rest => (16, rest)
    | '0' :: c :: rest => (8, c :: rest)
    | text => (10, text)
  let isDigit (c : Char) : Bool := match Text.hexValue? c with
    | some n => n < base
    | none => false
  if text.isEmpty || !digits.all isDigit then none
  else
    let n := Text.ofDigits base digits
    some (if n < UInt32.size then some n else none)

/-- The parts of a name between its points, without an empty last one. -/
def nameParts (name : Text) : List Text :=
  let parts := Text.splitOn '.' name
  if 1 < parts.length && parts.getLast? == some [] then parts.dropLast else parts

/-- The last part of a name is a number, so the name must be an address. -/
def endsInNumber (name : Text) : Bool :=
  match (nameParts name).getLast? with
  | none => false
  | some last =>
    (!last.isEmpty && last.all Char.isDigit) || (ipv4Number? last).isSome

/-- How many numbers some octets can hold. -/
def octetNumbers (octets : Nat) : Nat := Nat.pow 256 octets

/-- The number of a short address.  Its last part stands for all octets that the parts
before it leave over. -/
def ipv4? (name : Text) : Option Nat := do
  let parts := nameParts name
  if 4 < parts.length then none
  else
    let numbers ← parts.mapM fun part => (ipv4Number? part).join
    let last ← numbers.getLast?
    let leading := numbers.dropLast
    let room := octetNumbers (4 - leading.length)
    if room ≤ last ∨ leading.any (255 < ·) then none
    else some (leading.foldl (fun n octet => n * 256 + octet) 0 * room + last)

/-- A short address as it is written. -/
def ipv4Text (n : Nat) : Text :=
  Text.join ['.'] ([3, 2, 1, 0].map fun octet => Text.ofNat (n / octetNumbers octet % 256))

/-- The two pieces of a long address that a short one at its end stands for. -/
def embeddedIpv4? (text : Text) : Option (List Nat) := do
  let numbers ← (Text.splitOn '.' text).mapM fun part =>
    if part.length > 1 ∧ part.head? = some '0' then none
    else (Text.natValue? part).filter (· ≤ 255)
  match numbers with
  | [a, b, c, d] => some [a * 256 + b, c * 256 + d]
  | _ => none

/-- A piece of a long address. -/
def ipv6Piece? (text : Text) : Option Nat :=
  if !text.isEmpty && text.length ≤ 4 && text.all Text.isHexDigit then
    some (Text.ofDigits 16 text)
  else none

/-- The pieces between colons, the last of which may be a short address. -/
def ipv6Pieces? : List Text → Option (List Nat)
  | [] => some []
  | [last] =>
    if last.contains '.' then embeddedIpv4? last else (ipv6Piece? last).map ([·])
  | piece :: pieces => do
    let n ← ipv6Piece? piece
    let rest ← ipv6Pieces? pieces
    some (n :: rest)

/-- The pieces of one side of the gap in a long address. -/
def ipv6Side? (text : Text) : Option (List Nat) :=
  if text.isEmpty then some [] else ipv6Pieces? (Text.splitOn ':' text)

/-- What stands before and after the first two colons in a row. -/
def cutAtGap? : Text → Option (Text × Text)
  | ':' :: ':' :: rest => some ([], rest)
  | c :: rest => (cutAtGap? rest).map fun (before, after) => (c :: before, after)
  | [] => none

/-- The eight pieces of a long address; a gap stands for at least one piece of zero. -/
def ipv6? (text : Text) : Option (List Nat) := do
  match cutAtGap? text with
  | none =>
    let pieces ← ipv6Side? text
    if pieces.length = 8 then some pieces else none
  | some (before, after) =>
    if before.contains '.' then none
    else
      let left ← ipv6Side? before
      let right ← ipv6Side? after
      if left.length + right.length ≤ 7 then
        some (left ++ List.replicate (8 - left.length - right.length) 0 ++ right)
      else none

/-- The place and length of the first of the longest runs of zeros, from a place on. -/
def longestZeros : (place : Nat) → List Nat → Nat × Nat
  | _, [] => (0, 0)
  | place, pieces@(_ :: rest) =>
    let here := (pieces.takeWhile (· == 0)).length
    let later := longestZeros (place + 1) rest
    if later.2 ≤ here then (place, here) else later

/-- A long address as it is written, in brackets; its longest run of at least two
pieces of zero is left out. -/
def ipv6Text (pieces : List Nat) : Text :=
  let write (pieces : List Nat) := Text.join [':'] (pieces.map (Text.hexOfNat 1))
  let (place, size) := longestZeros 0 pieces
  let inside :=
    if size < 2 then write pieces
    else write (pieces.take place) ++ ':' :: ':' :: write (pieces.drop (place + size))
  '[' :: (inside ++ [']'])

/-- The address inside brackets. -/
def bracketHost (text : Text) : Except UrlError Text :=
  match text.getLast? with
  | some ']' =>
    match ipv6? (text.drop 1).dropLast with
    | some pieces => .ok (ipv6Text pieces)
    | none => .error .badIpv6
  | _ => .error .badIpv6

/-- The host of a url whose scheme browsers know. -/
def knownHost (text : Text) : Except UrlError Text :=
  if text.head? = some '[' then bracketHost text
  else
    match (Utf8.decode? (Percent.bytesOf text)).bind Domain.nameText? with
    | none => .error .badDomain
    | some name =>
      if name.isEmpty then .error .emptyHost
      else if endsInNumber name then
        match ipv4? name with
        | some n => .ok (ipv4Text n)
        | none => .error .badIpv4
      else .ok name

/-- The host of a url of any other scheme; its letters keep their case. -/
def otherHost (text : Text) : Except UrlError Text :=
  if text.head? = some '[' then bracketHost text
  else if text.any fun c => c.toNat == 0 || "\t\n\r #/:<>?@[\\]^|".toList.contains c then
    .error .badDomainCharacter
  else .ok (escapeWhere isControl text)

end Url
end OutboundHttp
