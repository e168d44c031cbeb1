import Signpost.Regex.Expr

/-!
# The kernel of expressions

For the machine, counted repetitions are written out: what is left are two loops, one that runs its
body any number of times and one that runs it at least once. The order of alternatives says which
match is preferred.
-/

namespace Signpost.Regex

open Signpost.Unicode (CharSet)

/-- An expression whose only repetitions are "any number" and "once or more". -/
inductive Node where
  | empty
  | set (s : CharSet)
  | look (l : Look)
  | capture (index : Nat) (body : Node)
  | seq (first second : Node)
  | alt (first second : Node)
  | star (greedy : Bool) (body : Node)
  | plus (greedy : Bool) (body : Node)
  deriving Repr, Inhabited

namespace Node

/-- The node or nothing, what is preferred first. -/
def optional (greedy : Bool) (n : Node) : Node :=
  if greedy then .alt n .empty else .alt .empty n

/-- So many copies of the node, and then `tail`. -/
def copies (n : Node) : (count : Nat) → (tail : Node) → Node
  | 0, tail => tail
  | count + 1, tail => .seq n (copies n count tail)

def upTo (greedy : Bool) (n : Node) : (count : Nat) → Node
  | 0 => .empty
  | count + 1 => optional greedy (.seq n (upTo greedy n count))

/-- The node repeated between `lo` and `hi` times; without `hi`, there is no upper bound. A body
that may match the empty text is run before it is decided whether to go on, so that its empty match
counts. -/
def repeated (consumes : Bool) (lo : Nat) (hi : Option Nat) (greedy : Bool) (n : Node) : Node :=
  match lo, hi with
  | 0, none => if consumes then .star greedy n else optional greedy (.plus greedy n)
  | lo + 1, none => copies n lo (.plus greedy n)
  | lo, some hi => copies n lo (upTo greedy n (hi - lo))

end Node

namespace Expr

/-- The expression with its repetitions written out. -/
def expand : Expr → Node
  | .empty => .empty
  | .set s => .set s
  | .look l => .look l
  | .capture index _ body => .capture index body.expand
  | .repetition lo hi greedy body => Node.repeated body.consumes lo hi greedy body.expand
  | .seq a b => .seq a.expand b.expand
  | .alt a b => .alt a.expand b.expand

end Expr

end Signpost.Regex
