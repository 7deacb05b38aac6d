import OutboundHttp.Url.Basic

/-!
# Paths of urls

A path is cut into segments at its slashes.  A segment of one dot stands for its own
directory and one of two for the directory above, also when the dots are percent coded;
none of them is left in a url.  A letter with a colon names a drive: nothing goes above
it, and at the start of the path of a file it may be written with a bar.
-/
namespace OutboundHttp
namespace Url

/-- The character stands between two segments of a path. -/
def isSlash (special : Bool) (c : Char) : Bool :=
  c == '/' || (special && c == '\\')

/-- The segment stands for its own directory. -/
def isSingleDot (segment : Text) : Bool :=
  [".".toList, "%2e".toList].contains (Text.lowerAscii segment)

/-- The segment stands for the directory above. -/
def isDoubleDot (segment : Text) : Bool :=
  ["..".toList, ".%2e".toList, "%2e.".toList, "%2e%2e".toList].contains (Text.lowerAscii segment)

/-- The segment names a drive. -/
def isDrive : Text → Bool
  | [letter, mark] => letter.isAlpha && (mark == ':' || mark == '|')
  | _ => false

/-- The segment begins with a drive: with its name alone, or with its name and a
backslash. -/
def startsWithDrive (segment : Text) : Bool :=
  isDrive (segment.take 2) && (segment.drop 2).head?.all (· == '\\')

/-- The segments, the last first, of the directory above.  There is none above a drive. -/
def popSegment : List Text → List Text
  | [] => []
  | segment :: earlier => if startsWithDrive segment then segment :: earlier else earlier

/-- The segments with one more in front; a drive at the start of the path of a file is
written with a colon. -/
def pushSegment (file : Bool) (segment : Text) (done : List Text) : List Text :=
  if file && done.isEmpty && isDrive segment then [segment.take 1 ++ [':']]
  else segment :: done

/-- The segments with those of dots resolved; `done` holds the segments so far, the last
first.  Dots at the end leave an empty segment behind. -/
def resolveDots (file : Bool) : List Text → (done : List Text) → List Text
  | [], done => done.reverse
  | segment :: rest, done =>
    let close (done : List Text) := if rest.isEmpty then [] :: done else done
    if isDoubleDot segment then resolveDots file rest (close (popSegment done))
    else if isSingleDot segment then resolveDots file rest (close done)
    else resolveDots file rest (pushSegment file segment done)

/-- The segments of what follows the first slash of a path. -/
def segmentsOf (special file : Bool) (text : Text) : List Text :=
  let pieces := Text.splitOn '/' (text.map fun c => if isSlash special c then '/' else c)
  resolveDots file (pieces.map (escapeWhere isPathEscape)) []

/-- The segments without empty ones at the start; one is left if there are no others. -/
def dropEmptySegments (segments : List Text) : List Text :=
  match segments.dropWhile List.isEmpty with
  | [] => [[]]
  | segments => segments

/-- What follows the first slash of a path, which may have none. -/
def afterSlash (special : Bool) : Text → Text
  | [] => []
  | c :: rest => if isSlash special c then rest else c :: rest

end Url
end OutboundHttp
