import Signpost.Regex.Program
import Signpost.Regex.Elaboration

/-!
# Searching

A program is run by depth-first search over pairs of an address and a position in the text. A pair
that was reached once is not entered again, because whatever follows from it has been tried or is
being tried; so a search takes no more steps than there are pairs, and the first way to succeed is
the preferred one.
-/

namespace Signpost.Regex

open Signpost.Unicode (CharSet)

/-! ## Assertions -/

/-- Whether the character at the place, if there is one, belongs to a word. -/
def isWordAt (unicode : Bool) (c : Option Char) : Bool :=
  c.any fun c => (if unicode then wordSet else asciiWordSet).contains c

namespace Look

/-- Whether the assertion holds between the characters before and after a position; at an end of the
text there is none. -/
def holds (l : Look) (before after : Option Char) : Bool :=
  match l with
  | .textStart => before.isNone
  | .textEnd => after.isNone
  | .lineStart false => before.isNone || before == some '\n'
  | .lineEnd false => after.isNone || after == some '\n'
  | .lineStart true =>
    before.isNone || before == some '\n' || (before == some '\r' && after != some '\n')
  | .lineEnd true =>
    after.isNone || after == some '\r' || (after == some '\n' && before != some '\r')
  | .word edge unicode =>
    let b := isWordAt unicode before
    let a := isWordAt unicode after
    match edge with
    | .boundary => b != a
    | .inside => b == a
    | .start => !b && a
    | .finish => b && !a
    | .startHalf => !b
    | .finishHalf => !a

end Look

/-! ## Runs -/

/-- A run of a program: the next instruction, the position in the text, and the positions stored so
far, the latest first. -/
structure Thread where
  pc : Nat
  pos : Nat
  slots : List (Nat × Nat)
  deriving Repr, Inhabited, DecidableEq

namespace Thread

/-- The character before the position of the thread. -/
def before (t : Thread) (text : Array Char) : Option Char :=
  if t.pos = 0 then none else text[t.pos - 1]?

/-- The threads that may follow, the preferred one first. -/
def next (program : Array Instr) (text : Array Char) (t : Thread) : List Thread :=
  match program[t.pc]? with
  | some (.char s next) =>
    if text[t.pos]?.any s.contains then [{ t with pc := next, pos := t.pos + 1 }] else []
  | some (.look l next) =>
    if l.holds (t.before text) text[t.pos]? then [{ t with pc := next }] else []
  | some (.save slot next) => [{ t with pc := next, slots := (slot, t.pos) :: t.slots }]
  | some (.split first second) => [{ t with pc := first }, { t with pc := second }]
  | some (.jump next) => [{ t with pc := next }]
  | some .accept => []
  | none => []

/-- Whether the thread has reached the end of the program with a match. -/
def accepts (program : Array Instr) (t : Thread) : Bool :=
  match program[t.pc]? with
  | some .accept => true
  | _ => false

/-- The number of the thread's pair of address and position. -/
def key (program : Array Instr) (t : Thread) : Nat :=
  t.pos * program.size + t.pc

end Thread

theorem count_false_set_lt (seen : Array Bool) (i : Nat) (h : i < seen.size)
    (hi : seen[i] = false) : (seen.set i true).count false < seen.count false := by
  have hpos : 0 < seen.count false :=
    Array.count_pos_iff.mpr (hi ▸ Array.getElem_mem h)
  rw [Array.count_set, hi]
  exact Nat.sub_lt hpos Nat.one_pos

/-- Follows the waiting threads, the first one first, until one accepts. `seen` marks the pairs that
have been entered; it is handed back for a later search on the same text. -/
def explore (program : Array Instr) (text : Array Char) :
    (todo : List Thread) → (seen : Array Bool) → Option Thread × Array Bool
  | [], seen => (none, seen)
  | t :: todo, seen =>
    if h : t.key program < seen.size then
      if hs : seen[t.key program] = false then
        if t.accepts program then (some t, seen)
        else explore program text (t.next program text ++ todo) (seen.set (t.key program) true)
      else explore program text todo seen
    else explore program text todo seen
  termination_by todo seen => (seen.count false, todo.length)
  decreasing_by
    · exact Prod.Lex.left _ _ (count_false_set_lt seen _ h hs)
    · exact Prod.Lex.right _ (by simp)
    · exact Prod.Lex.right _ (by simp)

/-- Searches from each of the starting positions in turn. -/
def exploreFrom (program : Array Instr) (text : Array Char) :
    (starts : List Nat) → (seen : Array Bool) → Option Thread
  | [], _ => none
  | start :: starts, seen =>
    match explore program text [⟨0, start, []⟩] seen with
    | (some t, _) => some t
    | (none, seen) => exploreFrom program text starts seen

/-- The preferred match that starts first, as the thread that found it. -/
def search (program : Array Instr) (text : Array Char) : Option Thread :=
  exploreFrom program text (List.range (text.size + 1))
    (Array.replicate ((text.size + 1) * program.size) false)

end Signpost.Regex
