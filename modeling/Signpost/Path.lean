import Signpost.Text.Split

/-!
# Paths

A path is canonical if it is `/` or a sequence of elements, each written behind a slash, none of
which is empty, `.` or `..`. Cleaning brings any text into this form: empty elements and `.` are
dropped, and `..` takes the element before it away.
-/

namespace Signpost.Path

/-- Walks over the pieces; `walked` are the elements kept so far, the last one first. -/
def walk (walked : List (List Char)) : List (List Char) → List (List Char)
  | [] => walked.reverse
  | piece :: rest =>
    if piece = [] ∨ piece = ['.'] then walk walked rest
    else if piece = ['.', '.'] then walk walked.tail rest
    else walk (piece :: walked) rest

def elements (path : List Char) : List (List Char) :=
  walk [] (Text.split '/' path)

/-- The path with the elements, each behind a slash; without any it is `/`. -/
def ofElements : List (List Char) → List Char
  | [] => ['/']
  | es => es.flatMap fun e => '/' :: e

def clean (path : String) : String :=
  String.ofList (ofElements (elements path.toList))

/-- The canonical path of `rest` seen from `base`. -/
def join (base rest : String) : String :=
  clean (base ++ "/" ++ rest)

/-- An element of a canonical path: not empty, no dots that mean something, and without a slash. -/
def IsElement (e : List Char) : Prop :=
  e ≠ [] ∧ e ≠ ['.'] ∧ e ≠ ['.', '.'] ∧ '/' ∉ e

/-- A path is canonical if it consists of elements. -/
def Canonical (path : String) : Prop :=
  ∃ es : List (List Char), (∀ e ∈ es, IsElement e) ∧ path = String.ofList (ofElements es)

end Signpost.Path
