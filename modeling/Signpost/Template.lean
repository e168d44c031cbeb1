import Signpost.Text.Split
import Signpost.Vars

/-!
# Templates

A template is a text with holes: a name in braces is a hole, which the variable of that name fills.
A name goes up to the next closing brace, whatever stands before it. An opening brace that is never
closed is text.
-/

namespace Signpost

/-- A piece of a template. -/
inductive Piece where
  | text (s : List Char)
  | hole (name : List Char)
  deriving DecidableEq, Repr

def Piece.source : Piece → List Char
  | .text s => s
  | .hole name => '\x7b' :: name ++ ['\x7d']

abbrev Template := List Piece

namespace Template

def source (t : Template) : List Char := t.flatMap Piece.source

def parse (s : List Char) : Template :=
  match _h : Text.cut? '\x7b' s with
  | none => [.text s]
  | some (before, rest) =>
    match _h' : Text.cut? '\x7d' rest with
    | none => [.text s]
    | some (name, rest) => .text before :: .hole name :: parse rest
  termination_by s.length
  decreasing_by
    have := Text.length_of_cut? _h
    have := Text.length_of_cut? _h'
    omega

theorem source_parse (s : List Char) : (parse s).source = s := by
  fun_induction parse s with
  | case1 s h => simp [source, Piece.source]
  | case2 s before rest h h' => simp [source, Piece.source]
  | case3 s before rest h name rest' h' ih =>
    rw [source] at ih
    rw [source, List.flatMap_cons, List.flatMap_cons, ih, Text.eq_of_cut? h, Text.eq_of_cut? h']
    simp [Piece.source]

end Template

/-- The piece with its hole filled; a variable that there is not is empty. -/
def Piece.fill (vars : Vars) : Piece → List Char
  | .text s => s
  | .hole name => (Vars.getOrEmpty vars (String.ofList name)).toList

namespace Template

/-- The template with every hole filled. What fills a hole is not read again. -/
def fill (vars : Vars) (t : Template) : List Char := t.flatMap (Piece.fill vars)

@[simp]
theorem fill_append (vars : Vars) (t u : Template) :
    (t ++ u).fill vars = t.fill vars ++ u.fill vars :=
  List.flatMap_append

def expand (vars : Vars) (text : String) : String :=
  String.ofList ((parse text.toList).fill vars)

end Template

end Signpost
