import Signpost.Dict
import Signpost.Text.Split
import Signpost.Text.Utf8

/-!
# Files

A directory is given by its files, each with its path from there. Paths may hold elements that
change nothing and elements that lead up again; what is outside the directory is not there.
-/

namespace Signpost

/-- Why a file cannot be read. -/
inductive FileFault where
  | notFound
  | isDirectory
  /-- Something on the way to the file is no directory. -/
  | notDirectory
  /-- Any other reason, in the words of the system. -/
  | other (reason : String)
  deriving DecidableEq, Repr

def FileFault.message : FileFault → String
  | .notFound => "No such file or directory (os error 2)"
  | .isDirectory => "Is a directory (os error 21)"
  | .notDirectory => "Not a directory (os error 20)"
  | .other reason => reason

abbrev Files := Dict Bytes

namespace Files

/-- The path with the elements, each after the one it is in. -/
def pathOf (elements : List (List Char)) : String :=
  String.ofList (List.intercalate ['/'] elements)

def isDirectory (files : Files) (elements : List (List Char)) : Bool :=
  elements.isEmpty || files.toList.any fun f => f.1.startsWith (pathOf elements ++ "/")

/-- Follows the elements of a path from a place in the directory. -/
def follow (files : Files) : (place : List (List Char)) → List (List Char) →
    Except FileFault (List (List Char))
  | place, [] => .ok place
  | place, e :: rest =>
    if !files.isDirectory place then
      .error (if files.contains (pathOf place) then .notDirectory else .notFound)
    else if e = [] ∨ e = ['.'] then follow files place rest
    else if e = ['.', '.'] then
      if place.isEmpty then .error .notFound else follow files place.dropLast rest
    else follow files (place ++ [e]) rest

def read (files : Files) (path : String) : Except FileFault Bytes :=
  if path.startsWith '/' then .error .notFound
  else do
    let place ← files.follow [] (Text.split '/' path.toList)
    match files.get? (pathOf place) with
    | some bytes => .ok bytes
    | none => .error (if files.isDirectory place then .isDirectory else .notFound)

end Files

end Signpost
