import Signpost.Unicode.CharSet

/-!
# Expressions

An expression is a regular expression whose flags and classes have been given their meaning: what is
left are sets of characters, assertions, groups, sequences, alternatives and counted repetitions.
-/

namespace Signpost.Regex

open Signpost.Unicode (CharSet)

/-- Which edge of a word an assertion asks for. -/
inductive WordEdge where
  | boundary
  | inside
  | start
  | finish
  | startHalf
  | finishHalf
  deriving DecidableEq, Repr, Inhabited

/-- An assertion on a position of the text. -/
inductive Look where
  | textStart
  | textEnd
  | lineStart (crlf : Bool)
  | lineEnd (crlf : Bool)
  | word (edge : WordEdge) (unicode : Bool)
  deriving DecidableEq, Repr, Inhabited

/-- A regular expression over characters. -/
inductive Expr where
  | empty
  | set (s : CharSet)
  | look (l : Look)
  | capture (index : Nat) (name : Option String) (body : Expr)
  | repetition (lo : Nat) (hi : Option Nat) (greedy : Bool) (body : Expr)
  | seq (first second : Expr)
  | alt (first second : Expr)
  deriving DecidableEq, Repr, Inhabited

namespace Expr

/-- Whether the expression matches nothing but the empty text. -/
def onlyEmpty : Expr → Bool
  | .empty | .look _ => true
  | .set _ => false
  | .capture _ _ body => body.onlyEmpty
  | .repetition _ hi _ body => hi == some 0 || body.onlyEmpty
  | .seq a b => a.onlyEmpty && b.onlyEmpty
  | .alt a b => a.onlyEmpty && b.onlyEmpty

/-- Whether every match of the expression takes at least one character. -/
def consumes : Expr → Bool
  | .empty | .look _ => false
  | .set s => !s.intervals.isEmpty
  | .capture _ _ body => body.consumes
  | .repetition lo _ _ body => 0 < lo && body.consumes
  | .seq a b => a.consumes || b.consumes
  | .alt a b => a.consumes && b.consumes

/-- The repetition of an expression. Repeating the empty text more than once says nothing new, and a
repetition of no or one round is no repetition. -/
def repeated (lo : Nat) (hi : Option Nat) (greedy : Bool) (body : Expr) : Expr :=
  let lo' := if body.onlyEmpty then min lo 1 else lo
  let hi' := if body.onlyEmpty then some (min (hi.getD 1) 1) else hi
  if lo' = 0 ∧ hi' = some 0 then .empty
  else if lo' = 1 ∧ hi' = some 1 then body
  else .repetition lo' hi' greedy body

def sequence : List Expr → Expr
  | [] => .empty
  | [e] => e
  | e :: rest => .seq e (sequence rest)

/-- The expressions as alternatives, the first preferred. -/
def alternatives : List Expr → Expr
  | [] => .set CharSet.empty
  | [e] => e
  | e :: rest => .alt e (alternatives rest)

/-- The capturing groups of the expression, each as its index and its name. -/
def groups : Expr → List (Nat × Option String)
  | .empty | .set _ | .look _ => []
  | .capture index name body => (index, name) :: body.groups
  | .repetition _ _ _ body => body.groups
  | .seq a b => a.groups ++ b.groups
  | .alt a b => a.groups ++ b.groups

end Expr

end Signpost.Regex
