import Signpost.Text.Split
import Signpost.Url.Percent

/-!
# Paths of URLs

The path of a URL is a list of segments. A segment of one dot is dropped and one of two dots takes
the segment before it away, unless that is the letter of a drive. A dot may be written `%2e`.
-/

namespace Signpost.Url

/-- The segment with its escaped dots written as dots. -/
def plainDots : List Char → List Char
  | '%' :: '2' :: 'e' :: rest | '%' :: '2' :: 'E' :: rest => '.' :: plainDots rest
  | c :: rest => c :: plainDots rest
  | [] => []

/-- Whether the segment is the letter of a drive and a colon or a bar. -/
def isDrive : List Char → Bool
  | [c, mark] => c.isAlpha && (mark == ':' || mark == '|')
  | _ => false

/-- The segments without the last one; `kept` holds them in reverse. -/
def popSegment : (kept : List (List Char)) → List (List Char)
  | [] => []
  | segment :: kept => if isDrive segment then segment :: kept else kept

/-- Adds a segment to those kept, in reverse. The drive at the start of the path of a file has a
colon. -/
def pushSegment (file : Bool) (kept : List (List Char)) (segment : List Char) : List (List Char) :=
  match file && kept.isEmpty && isDrive segment, segment with
  | true, c :: _ => [[c, ':']]
  | _, _ => segment :: kept

/-- Resolves the dots; `kept` holds the segments so far, in reverse. Dots at the end leave an empty
segment. -/
def resolve (file : Bool) (kept : List (List Char)) : List (List Char) → List (List Char)
  | [] => kept.reverse
  | segment :: rest =>
    let more (kept : List (List Char)) : List (List Char) :=
      resolve file (if rest.isEmpty then [] :: kept else kept) rest
    if plainDots segment = ['.'] then more kept
    else if plainDots segment = ['.', '.'] then more (popSegment kept)
    else resolve file (pushSegment file kept segment) rest

/-- The segments of a path that is written without the slash at its start. In a URL whose scheme
gives its path a meaning, a backslash is a slash. -/
def segments (special file : Bool) (path : List Char) : List (List Char) :=
  let path := if special then path.map fun c => if c = '\\' then '/' else c else path
  resolve file [] ((Text.split '/' path).map (Percent.encode .path))

end Signpost.Url
