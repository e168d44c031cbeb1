import Signpost.Regex.Parser
import Signpost.Regex.Weight
import Signpost.Regex.Search

/-!
# Compiled expressions

A `Regex` is a regular expression together with its program and the names of its groups. A group
that can never take part in a match, because it stands under a repetition of zero rounds, has no
name.
-/

namespace Signpost

open Regex in
/-- A compiled regular expression. -/
structure Regex where
  source : String
  expr : Expr
  /-- The names of the groups 1, 2, … -/
  groupNames : List (Option String)
  program : Array Instr

namespace Regex

/-- The name of the group in a list of groups with their indices. -/
def nameAt (groups : List (Nat × Option String)) (index : Nat) : Option String :=
  (groups.find? (·.1 == index)).bind (·.2)

/-- The compiled form of an expression with the given source text. -/
def ofExpr (source : String) (e : Expr) : Regex :=
  let groups := e.groups
  let count := groups.foldl (fun n g => max n g.1) 0
  { source
    expr := e
    groupNames := (List.range count).map fun i => nameAt groups (i + 1)
    program := e.expand.program }

/-- Compiles the text of a regular expression. -/
def compile (source : String) : Except Fault Regex := do
  let ast ← Ast.parse source.toList
  let (e, _) ← ast.elaborate {}
  if e.weight ≤ sizeLimit then .ok (ofExpr source e) else .error .tooLarge

/-- A match: the text that was searched and the positions that were stored. -/
structure Captures where
  text : Array Char
  slots : List (Nat × Nat)
  deriving Repr, Inhabited

namespace Captures

def slot? (c : Captures) (i : Nat) : Option Nat :=
  (c.slots.find? (·.1 == i)).map (·.2)

/-- Where the group begins and ends; group zero is the whole match. -/
def span? (c : Captures) (group : Nat) : Option (Nat × Nat) := do
  let start ← c.slot? (2 * group)
  let stop ← c.slot? (2 * group + 1)
  return (start, stop)

/-- The text of the group, if it took part in the match. -/
def group? (c : Captures) (group : Nat) : Option String :=
  (c.span? group).map fun (start, stop) =>
    String.ofList ((c.text.toList.drop start).take (stop - start))

end Captures

def captures? (r : Regex) (text : String) : Option Captures :=
  let chars := text.toList.toArray
  (search r.program chars).map fun t => ⟨chars, t.slots⟩

def isMatch (r : Regex) (text : String) : Bool :=
  (r.captures? text).isSome

/-- The named groups with their indices, in the order of the indices. -/
def namedGroups (r : Regex) : List (String × Nat) :=
  (r.groupNames.zipIdx 1).filterMap fun (name, i) => name.map (·, i)

end Regex

end Signpost
