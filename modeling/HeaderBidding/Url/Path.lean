import HeaderBidding.Text.Segments
import HeaderBidding.Url.Percent

/-!
# Paths of addresses

A path is a list of segments. Segments of a single dot are left out, and those of two dots take back
the segment before; at the end of a path they leave an empty segment. In the path of a file the
letter of a drive is never taken back.
-/

namespace HeaderBidding.Url

/-- Whether a segment means the same as `.`. -/
def isSingleDot (segment : List Char) : Bool :=
  [".", "%2e"].contains (String.ofList (segment.map Char.toLower))

/-- Whether a segment means the same as `..`. -/
def isDoubleDot (segment : List Char) : Bool :=
  ["..", ".%2e", "%2e.", "%2e%2e"].contains (String.ofList (segment.map Char.toLower))

/-- Whether a text is the letter of a drive. -/
def isDrive : List Char → Bool
  | [letter, mark] => letter.isAlpha && (mark == ':' || mark == '|')
  | _ => false

/-- The letter of a drive in its canonical form. -/
def driveText (segment : List Char) : List Char :=
  segment.take 1 ++ [':']

/-- Takes back the last segment, of segments in reverse order. -/
def takeBack (isFile : Bool) (before : List (List Char)) : List (List Char) :=
  match before with
  | [drive] => if isFile && isDrive drive then [drive] else []
  | _ :: rest => rest
  | [] => []

/-- Resolves the dots of a path; `before` is what has been resolved, in reverse order. -/
def resolveDots (isFile : Bool) (before : List (List Char)) : List (List Char) → List (List Char)
  | [] => before.reverse
  | segment :: rest =>
    if isDoubleDot segment then
      let kept := takeBack isFile before
      resolveDots isFile (if rest = [] then [] :: kept else kept) rest
    else if isSingleDot segment then
      resolveDots isFile (if rest = [] then [] :: before else before) rest
    else if isFile && before = [] && isDrive segment then
      resolveDots isFile [driveText segment] rest
    else resolveDots isFile (segment :: before) rest

/-- A path without its first slash in canonical form. -/
def pathText (isSpecial isFile : Bool) (s : List Char) : List Char :=
  let slashed := if isSpecial then s.map fun c => if c = '\\' then '/' else c else s
  let resolved := resolveDots isFile [] ((Text.segments '/' slashed).map (percentEncode inPath))
  let kept := if isFile && resolved.length > 1 then
      match resolved.dropWhile List.isEmpty with
      | [] => [[]]
      | kept => kept
    else resolved
  '/' :: Text.join '/' kept

end HeaderBidding.Url
