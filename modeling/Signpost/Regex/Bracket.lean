import Signpost.Regex.Escape

/-!
# Bracketed classes

A class in brackets lists characters, ranges, named classes and further classes in brackets, which
operations between them join, cut or take away. The brackets that are still open are kept on a
stack.
-/

namespace Signpost.Regex.Parser

/-- The class with the name between `[:` and `:]`. -/
def posixClass? : String → Option PosixClass
  | "alnum" => some .alnum
  | "alpha" => some .alpha
  | "ascii" => some .ascii
  | "blank" => some .blank
  | "cntrl" => some .cntrl
  | "digit" => some .digit
  | "graph" => some .graph
  | "lower" => some .lower
  | "print" => some .print
  | "punct" => some .punct
  | "space" => some .space
  | "upper" => some .upper
  | "word" => some .word
  | "xdigit" => some .xdigit
  | _ => none

/-- Reads a class such as `[:alpha:]` or `[:^alpha:]` behind its opening bracket, if there is
one. -/
def posix? (s : List Char) : Option (ClassSet × List Char) :=
  match s with
  | ':' :: rest =>
    let negated := rest.head? == some '^'
    let named := if negated then rest.tail else rest
    let name := named.takeWhile (· ≠ ':')
    match named.dropWhile (· ≠ ':') with
    | ':' :: ']' :: after =>
      (posixClass? (String.ofList name)).map fun kind => (.posix negated kind, after)
    | _ => none
  | _ => none

/-- One unfinished part of a class: an open bracket with the items before it, or an operation that
waits for its right side. -/
inductive ClassFrame where
  | opened (before : List ClassSet) (negated : Bool)
  | operation (kind : ClassOp) (lhs : ClassSet)

/-- Takes the waiting operation off the stack, applied to its right side. -/
def closeOp (rhs : ClassSet) : List ClassFrame → ClassSet × List ClassFrame
  | .operation kind lhs :: stack => (.op kind lhs rhs, stack)
  | stack => (rhs, stack)

/-- The dashes at the start of a class, each a literal. -/
def leadingDashes (spaced : Bool) :
    (fuel : Nat) → List ClassSet → List Char → List ClassSet × List Char
  | 0, items, s => (items, s)
  | fuel + 1, items, '-' :: rest =>
    leadingDashes spaced fuel (.literal ⟨'-', false⟩ :: items) (skip spaced rest)
  | _ + 1, items, s => (items, s)

/-- Reads the start of a class behind its bracket: a caret, dashes, or a closing bracket that comes
first and is a literal. Answers whether it is negated, the items so far in reverse, and the rest. -/
def openClass (spaced : Bool) (s : List Char) :
    Except Fault (Bool × List ClassSet × List Char) := do
  let s := skip spaced s
  let (negated, s) := match s with
    | '^' :: rest => (true, skip spaced rest)
    | _ => (false, s)
  let (items, s) := leadingDashes spaced s.length [] s
  match items, s with
  | _, [] => .error .unclosedClass
  | [], ']' :: rest =>
    let rest := skip spaced rest
    if rest.isEmpty then .error .unclosedClass
    else .ok (negated, [.literal ⟨']', false⟩], rest)
  | _, _ => .ok (negated, items, s)

/-- Reads one member of a class or one end of a range. -/
def classPiece (spaced : Bool) : List Char → Except Fault (Piece × List Char)
  | [] => .error .unclosedClass
  | '\\' :: rest => escaped spaced rest
  | c :: rest => .ok (.literal ⟨c, false⟩, rest)

/-- Reads a member of a class or a range of characters. -/
def classRange (spaced : Bool) (s : List Char) : Except Fault (ClassSet × List Char) := do
  let (first, s) ← classPiece spaced s
  let s := skip spaced s
  match s with
  | [] => .error .unclosedClass
  | '-' :: _ =>
    if peek spaced s == some ']' || peek spaced s == some '-' then
      return (← first.toClassItem, s)
    let s := advance spaced s
    if s.isEmpty then .error .unclosedClass
    let (second, s) ← classPiece spaced s
    let lo ← first.toLiteral
    let hi ← second.toLiteral
    if lo.char ≤ hi.char then .ok (.range lo hi, s) else .error .invalidClassRange
  | _ => return (← first.toClassItem, s)

/-- Reads a class up to the bracket that closes it; `fuel` is at least the length of the text.
`items` are the members of the innermost open bracket in reverse, `negated` tells of the outermost
one. -/
def classBody (spaced negated : Bool) :
    (fuel : Nat) → List ClassFrame → List ClassSet → List Char → Except Fault (Ast × List Char)
  | 0, _, _, _ => .error .unclosedClass
  | fuel + 1, stack, items, s => do
    let operate (kind : ClassOp) (rest : List Char) : Except Fault (Ast × List Char) :=
      let (lhs, stack) := closeOp (ClassSet.ofItems items.reverse) stack
      classBody spaced negated fuel (.operation kind lhs :: stack) [] rest
    match skip spaced s with
    | [] => .error .unclosedClass
    | '[' :: rest =>
      match posix? rest with
      | some (item, after) => classBody spaced negated fuel stack (item :: items) after
      | none =>
        let (inner, first, after) ← openClass spaced rest
        classBody spaced negated fuel (.opened items inner :: stack) first after
    | ']' :: rest =>
      match closeOp (ClassSet.ofItems items.reverse) stack with
      | (set, .opened before inner :: stack) =>
        classBody spaced negated fuel stack (.bracket inner set :: before) rest
      | (set, _) => .ok (.bracket negated set, rest)
    | '&' :: '&' :: rest => operate .intersection rest
    | '-' :: '-' :: rest => operate .difference rest
    | '~' :: '~' :: rest => operate .symmetricDifference rest
    | s =>
      let (item, rest) ← classRange spaced s
      classBody spaced negated fuel stack (item :: items) rest

/-- Reads a bracketed class behind its opening bracket. -/
def classAst (spaced : Bool) (s : List Char) : Except Fault (Ast × List Char) := do
  let (negated, items, rest) ← openClass spaced s
  classBody spaced negated (rest.length + 1) [] items rest

end Signpost.Regex.Parser
