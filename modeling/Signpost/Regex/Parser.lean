import Signpost.Regex.Bracket
import Signpost.Unicode.Property

/-!
# Reading regular expressions

The reader goes through the text once, from left to right, and keeps the groups that are still open
on a stack. With the flag `x` on, blanks and comments between the signs of an expression are
skipped. `Ast.parse` also refuses a tree that nests deeper than the limit.
-/

namespace Signpost.Regex

open Signpost.Text (isBlank)

def nestLimit : Nat := 250

/-- The largest count that a repetition may name. -/
def countLimit : Nat := 0xFFFFFFFF

namespace Parser

/-! ## Groups -/

/-- Whether the character may stand in a group name, at its start or later. -/
def isNameChar (first : Bool) (c : Char) : Bool :=
  if c.toNat < 128 then
    c = '_' || c.isAlpha || (!first && (c = '.' || c = '[' || c = ']' || c.isDigit))
  else
    Unicode.Property.alphabetic.holds c ||
      (!first && Unicode.Category.numbers.contains (Unicode.Category.of c))

/-- Reads a group name up to the angle that closes it. -/
def groupName (s : List Char) : Except Fault (String × List Char) :=
  let name := s.takeWhile (· ≠ '>')
  match s.dropWhile (· ≠ '>'), name with
  | [], _ =>
    match name with
    | [] => .error .unexpectedEnd
    | c :: rest =>
      if isNameChar true c && rest.all (isNameChar false) then .error .unexpectedEnd
      else .error .invalidGroupName
  | _ :: _, [] => .error .emptyGroupName
  | _ :: after, c :: rest =>
    if isNameChar true c && rest.all (isNameChar false) then .ok (String.ofList name, after)
    else .error .invalidGroupName

def flag? : Char → Option Flag
  | 'i' => some .caseInsensitive
  | 'm' => some .multiLine
  | 's' => some .dotAll
  | 'U' => some .swapGreed
  | 'u' => some .unicode
  | 'R' => some .crlf
  | 'x' => some .ignoreSpace
  | _ => none

/-- Reads flags up to a colon or a closing parenthesis, which is left in place. `negated` tells that
the dash has come, `dangling` that no flag has come since. -/
def flagChange (negated dangling : Bool) (change : FlagChange) :
    List Char → Except Fault (FlagChange × List Char)
  | [] => .error .unexpectedEnd
  | c :: rest =>
    if c = ':' || c = ')' then
      if dangling then .error .danglingNegation else .ok (change, c :: rest)
    else if c = '-' then
      if negated then .error .repeatedNegation else flagChange true true change rest
    else
      match flag? c with
      | none => .error .unknownFlag
      | some f =>
        if change.on.contains f || change.off.contains f then .error .duplicateFlag
        else if negated then flagChange true false { change with off := change.off ++ [f] } rest
        else flagChange false false { change with on := change.on ++ [f] } rest

/-- Whether the text behind an opening parenthesis asks to look ahead or behind. -/
def isLookAround (s : List Char) : Bool :=
  [['?', '='], ['?', '!'], ['?', '<', '='], ['?', '<', '!']].any (·.isPrefixOf s)

/-! ## Counts -/

/-- The decimal digits at the start, and what follows them. -/
def digits (spaced : Bool) : (fuel : Nat) → List Char → List Char → List Char × List Char
  | 0, ds, s => (ds, s)
  | fuel + 1, ds, c :: rest =>
    if c.isDigit then digits spaced fuel (ds ++ [c]) (skip spaced rest) else (ds, c :: rest)
  | _ + 1, ds, [] => (ds, [])

def count (spaced : Bool) (s : List Char) : Except Fault Nat × List Char :=
  let s := s.dropWhile isBlank
  let (ds, s) := digits spaced s.length [] s
  let rest := skip (spaced && s.head?.any isBlank) (s.dropWhile isBlank)
  let n := ds.foldl (fun n d => n * 10 + (d.toNat - '0'.toNat)) 0
  if ds.isEmpty then (.error .emptyCount, rest)
  else if n > countLimit then (.error .invalidCount, rest)
  else (.ok n, rest)

/-- Reads the bounds of a counted repetition behind its brace, up to and with the closing one. -/
def bounds (spaced : Bool) (s : List Char) :
    Except Fault ((Nat × Option Nat) × List Char) := do
  let s := skip spaced s
  if s.isEmpty then .error .unclosedCount
  let (lo, s) := count spaced s
  let (range, s) ← match s with
    | [] => .error .unclosedCount
    | ',' :: rest =>
      match skip spaced rest with
      | [] => .error .unclosedCount
      | '\x7d' :: after => do pure ((← lo, none), '\x7d' :: after)
      | s => do
        let lo ← lo
        let (hi, s) := count spaced s
        pure ((lo, some (← hi)), s)
    | s => do
      let n ← lo
      pure ((n, some n), s)
  match s with
  | '\x7d' :: rest =>
    match range with
    | (lo, some hi) => if lo ≤ hi then .ok (range, rest) else .error .invalidCount
    | _ => .ok (range, rest)
  | _ => .error .unclosedCount

/-! ## The whole expression -/

/-- A group under construction: its kind, the finished branches and the parts of the current one,
both in reverse, and whether blanks were skipped around the group. -/
structure Level where
  kind : Option GroupKind
  branches : List Ast
  parts : List Ast
  outerSpaced : Bool

namespace Level

def toAst (l : Level) : Ast :=
  Ast.ofBranches ((Ast.ofParts l.parts.reverse :: l.branches).reverse)

end Level

/-- What the reader knows: the innermost open group, those around it, whether blanks are skipped,
how many capturing groups have come, and their names. -/
structure State where
  level : Level
  outer : List Level
  spaced : Bool
  captures : Nat
  names : List String

namespace State

def start : State where
  level := ⟨none, [], [], false⟩
  outer := []
  spaced := false
  captures := 0
  names := []

def push (st : State) (ast : Ast) : State :=
  { st with level := { st.level with parts := ast :: st.level.parts } }

def branch (st : State) : State :=
  { st with level := { st.level with
      branches := Ast.ofParts st.level.parts.reverse :: st.level.branches, parts := [] } }

def repeatLast (st : State) (lo : Nat) (hi : Option Nat) (greedy : Bool) : Except Fault State :=
  match st.level.parts with
  | [] | .flags _ :: _ | .empty :: _ => .error .missingOperand
  | last :: before =>
    .ok { st with level := { st.level with parts := .repetition lo hi greedy last :: before } }

def openGroup (st : State) (kind : GroupKind) (spaced : Bool) : State :=
  { st with level := ⟨some kind, [], [], st.spaced⟩, outer := st.level :: st.outer, spaced }

def closeGroup (st : State) : Except Fault State :=
  match st.level.kind, st.outer with
  | some kind, parent :: outer =>
    .ok ({ st with level := parent, outer, spaced := st.level.outerSpaced }.push
      (.group kind st.level.toAst))
  | _, _ => .error .unopenedGroup

/-- Opens a capturing group with the name, if it has one. -/
def openCapture (st : State) (name : Option String) : Except Fault State :=
  let opened := { st with captures := st.captures + 1 }.openGroup
    (.capture (st.captures + 1) name) st.spaced
  match name with
  | none => .ok opened
  | some n =>
    if st.names.contains n then .error .duplicateGroupName
    else .ok { opened with names := n :: st.names }

/-- Reads the header of a group behind its parenthesis. -/
def groupHeader (st : State) (s : List Char) : Except Fault (State × List Char) := do
  let s := skip st.spaced s
  if isLookAround s then .error .lookAround
  let named (s : List Char) : Except Fault (State × List Char) := do
    let (name, rest) ← groupName s
    return (← st.openCapture (some name), rest)
  match s with
  | '?' :: 'P' :: '<' :: rest => named rest
  | '?' :: '<' :: rest => named rest
  | '?' :: rest =>
    let (change, rest) ← flagChange false false ⟨[], []⟩ rest
    let spaced := (change.state? .ignoreSpace).getD st.spaced
    match rest with
    | ':' :: rest => .ok (st.openGroup (.plain change) spaced, rest)
    | _ =>
      if change == ⟨[], []⟩ then .error .missingOperand
      else .ok ({ st with spaced }.push (.flags change), rest.tail)
  | _ => return (← st.openCapture none, s)

/-- Reads the sign that makes a repetition lazy, if it follows. -/
def greed : List Char → Bool × List Char
  | '?' :: rest => (false, rest)
  | s => (true, s)

/-- Reads one sign of the expression, at least one character. -/
def step (st : State) (c : Char) (rest : List Char) : Except Fault (State × List Char) := do
  let repeated (lo : Nat) (hi : Option Nat) : Except Fault (State × List Char) := do
    let (greedy, rest) := greed rest
    return (← st.repeatLast lo hi greedy, rest)
  match c with
  | '(' => st.groupHeader rest
  | ')' => return (← st.closeGroup, rest)
  | '|' => .ok (st.branch, rest)
  | '[' =>
    let (ast, rest) ← classAst st.spaced rest
    .ok (st.push ast, rest)
  | '?' => repeated 0 (some 1)
  | '*' => repeated 0 none
  | '+' => repeated 1 none
  | '\x7b' =>
    let ((lo, hi), rest) ← bounds st.spaced rest
    let (greedy, rest) := greed (skip st.spaced rest)
    return (← st.repeatLast lo hi greedy, rest)
  | '\\' =>
    let (piece, rest) ← escaped st.spaced rest
    .ok (st.push piece.toAst, rest)
  | '.' => .ok (st.push .dot, rest)
  | '^' => .ok (st.push (.anchor .lineStart), rest)
  | '$' => .ok (st.push (.anchor .lineEnd), rest)
  | c => .ok (st.push (.literal ⟨c, false⟩), rest)

/-- Reads signs until the text ends; `fuel` is at least the length of the text, of which every sign
takes one character or more. -/
def run : (fuel : Nat) → State → List Char → Except Fault State
  | 0, st, _ => .ok st
  | fuel + 1, st, s =>
    match skip st.spaced s with
    | [] => .ok st
    | c :: rest => do
      let (st, rest) ← st.step c rest
      run fuel st rest

/-- The expression, if no group is left open. -/
def finish (st : State) : Except Fault Ast :=
  match st.level.kind with
  | none => .ok st.level.toAst
  | some _ => .error .unclosedGroup

end State

end Parser

namespace Ast

/-- Reads a regular expression and checks its nesting. -/
def parse (text : List Char) : Except Fault Ast := do
  let st ← Parser.State.run text.length Parser.State.start text
  let ast ← st.finish
  if ast.depth ≤ nestLimit then .ok ast else .error .nestedTooDeep

end Ast

end Signpost.Regex
