/-!
# Readers

A reader takes the beginning off a text and answers what it says, or refuses it. Where one
alternative refuses, the next starts from the same place.
-/

namespace Signpost.Text

abbrev Reader (α : Type) := StateT (List Char) Option α

namespace Reader

variable {α : Type}

/-- The next character that satisfies the condition. -/
def char (p : Char → Bool) : Reader Char := fun s =>
  match s with
  | c :: rest => if p c then some (c, rest) else none
  | [] => none

def literal (text : List Char) : Reader Unit := fun s =>
  if text.isPrefixOf s then some ((), s.drop text.length) else none

/-- All next characters that satisfy the condition. -/
def takeWhile (p : Char → Bool) : Reader (List Char) := fun s =>
  some (s.takeWhile p, s.dropWhile p)

/-- All next characters that satisfy the condition, at least one. -/
def takeWhile1 (p : Char → Bool) : Reader (List Char) := do
  let cs ← takeWhile p
  guard !cs.isEmpty
  return cs

/-- The next characters, `n` of them, that satisfy the condition. -/
def take (n : Nat) (p : Char → Bool) : Reader (List Char) := fun s =>
  let cs := s.take n
  if cs.length = n ∧ cs.all p then some (cs, s.drop n) else none

/-- The next character, which is not taken off. -/
def peek : Reader (Option Char) := fun s => some (s.head?, s)

def atEnd : Reader Unit := fun s => if s.isEmpty then some ((), s) else none

/-- What the reader answers, if it does not refuse. -/
def option (r : Reader α) : Reader (Option α) := fun s =>
  match r s with
  | some (a, rest) => some (some a, rest)
  | none => some (none, s)

/-- Reads again and again, until the reader refuses or takes nothing off. -/
def manyFrom (r : Reader α) (s : List Char) : List α × List Char :=
  match r s with
  | none => ([], s)
  | some (a, rest) =>
    if rest.length < s.length then
      let (as, rest) := manyFrom r rest
      (a :: as, rest)
    else ([a], rest)
  termination_by s.length

def many (r : Reader α) : Reader (List α) := fun s => some (manyFrom r s)

/-- At least one, with the separator in between. -/
def sepBy1 (r : Reader α) (sep : Reader Unit) : Reader (List α) := do
  let first ← r
  let rest ← many (sep *> r)
  return first :: rest

end Reader

end Signpost.Text
