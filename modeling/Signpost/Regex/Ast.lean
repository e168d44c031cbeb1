/-!
# Regular expressions as written

The tree of a regular expression as its text spells it: flags, classes and repetitions are kept as
they were written and get their meaning later. The depth of a tree is what the nesting limit counts.
-/

namespace Signpost.Regex

/-- A flag that a group or a part of one switches on or off. -/
inductive Flag where
  /-- `i`: letters match in either case. -/
  | caseInsensitive
  /-- `m`: `^` and `$` match at every line. -/
  | multiLine
  /-- `s`: the dot matches a line feed too. -/
  | dotAll
  /-- `U`: repetitions are lazy unless marked. -/
  | swapGreed
  /-- `u`: classes and case are those of Unicode. -/
  | unicode
  /-- `R`: a carriage return ends a line too. -/
  | crlf
  /-- `x`: blanks and comments in the expression are skipped. -/
  | ignoreSpace
  deriving DecidableEq, Repr, Inhabited

/-- The flags that a group header switches on and off. -/
structure FlagChange where
  on : List Flag
  off : List Flag
  deriving DecidableEq, Repr, Inhabited

namespace FlagChange

/-- The new state of a flag, if the change sets it. -/
def state? (c : FlagChange) (f : Flag) : Option Bool :=
  if c.on.contains f then some true else if c.off.contains f then some false else none

end FlagChange

/-- An assertion on a position, without any character. -/
inductive Anchor where
  | lineStart
  | lineEnd
  | textStart
  | textEnd
  | wordBoundary
  | notWordBoundary
  | wordStart
  | wordEnd
  | wordStartHalf
  | wordEndHalf
  deriving DecidableEq, Repr, Inhabited

/-- A literal character; `byte` tells that it was written as `\xHH`, which names a byte where
Unicode is switched off. -/
structure Literal where
  char : Char
  byte : Bool := false
  deriving DecidableEq, Repr, Inhabited

/-- The classes written with one letter: `\d`, `\s` and `\w`. -/
inductive LetterClass where
  | digit
  | space
  | word
  deriving DecidableEq, Repr, Inhabited

/-- The classes written between `[:` and `:]`. -/
inductive PosixClass where
  | alnum
  | alpha
  | ascii
  | blank
  | cntrl
  | digit
  | graph
  | lower
  | print
  | punct
  | space
  | upper
  | word
  | xdigit
  deriving DecidableEq, Repr, Inhabited

/-- What `\p` asks for: a name alone, or a property and the value it must have. -/
inductive PropertyQuery where
  | named (name : String)
  | valued (name value : String)
  deriving DecidableEq, Repr, Inhabited

/-- How two parts of a bracketed class combine. -/
inductive ClassOp where
  | intersection
  | difference
  | symmetricDifference
  deriving DecidableEq, Repr, Inhabited

/-- What stands between the brackets of a class. -/
inductive ClassSet where
  | literal (l : Literal)
  | range (lo hi : Literal)
  | posix (negated : Bool) (kind : PosixClass)
  | property (negated : Bool) (query : PropertyQuery)
  | letter (negated : Bool) (kind : LetterClass)
  | bracket (negated : Bool) (inner : ClassSet)
  | union (items : List ClassSet)
  | op (kind : ClassOp) (lhs rhs : ClassSet)
  deriving Repr, Inhabited

namespace ClassSet

/-- The union of items read in order; a single item stands for itself. -/
def ofItems : List ClassSet → ClassSet
  | [item] => item
  | items => .union items

mutual
/-- How many nested brackets, unions and operations the set holds. -/
def depth : ClassSet → Nat
  | .bracket _ inner => inner.depth + 1
  | .union [] => 0
  | .union items => depthAll items + 1
  | .op _ lhs rhs => max lhs.depth rhs.depth + 1
  | _ => 0
def depthAll : List ClassSet → Nat
  | [] => 0
  | item :: rest => max item.depth (depthAll rest)
end

end ClassSet

/-- The kind of a group: capturing, with its index and perhaps a name, or only a scope for flags. -/
inductive GroupKind where
  | capture (index : Nat) (name : Option String)
  | plain (change : FlagChange)
  deriving DecidableEq, Repr, Inhabited

/-- A regular expression as written. -/
inductive Ast where
  | empty
  | flags (change : FlagChange)
  | literal (l : Literal)
  | dot
  | anchor (a : Anchor)
  | property (negated : Bool) (query : PropertyQuery)
  | letter (negated : Bool) (kind : LetterClass)
  | bracket (negated : Bool) (set : ClassSet)
  | repetition (lo : Nat) (hi : Option Nat) (greedy : Bool) (body : Ast)
  | group (kind : GroupKind) (body : Ast)
  | alternation (branches : List Ast)
  | concat (parts : List Ast)
  deriving Repr, Inhabited

namespace Ast

/-- The parts in sequence; none is the empty expression, one stands for itself. -/
def ofParts : List Ast → Ast
  | [] => .empty
  | [part] => part
  | parts => .concat parts

/-- The branches as alternatives; one stands for itself. -/
def ofBranches : List Ast → Ast
  | [branch] => branch
  | branches => .alternation branches

mutual
/-- How many nested groups, repetitions, sequences, alternatives and brackets the tree holds. -/
def depth : Ast → Nat
  | .bracket _ set => set.depth + 1
  | .repetition _ _ _ body => body.depth + 1
  | .group _ body => body.depth + 1
  | .alternation branches => depthAll branches + 1
  | .concat parts => depthAll parts + 1
  | _ => 0
def depthAll : List Ast → Nat
  | [] => 0
  | ast :: rest => max ast.depth (depthAll rest)
end

end Ast

end Signpost.Regex
