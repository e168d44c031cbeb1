import Signpost.Regex.Node

/-!
# Programs

A program is a list of instructions, each of which names the instructions that may follow it. The
code of a node lies in one block: it is entered at the first instruction of the block and left only
for the one address it is given.
-/

namespace Signpost.Regex

open Signpost.Unicode (CharSet)

/-- One instruction; `next` is the address at which a run goes on. -/
inductive Instr where
  /-- Takes one character of the set. -/
  | char (s : CharSet) (next : Nat)
  /-- Goes on where the assertion holds. -/
  | look (l : Look) (next : Nat)
  /-- Stores the position in a slot. -/
  | save (slot next : Nat)
  /-- Goes on at the first address, and if that fails at the second. -/
  | split (first second : Nat)
  | jump (next : Nat)
  | accept
  deriving Repr, Inhabited

namespace Node

/-- The number of instructions of the node's code. -/
def size : Node → Nat
  | .empty | .set _ | .look _ => 1
  | .capture _ body => body.size + 2
  | .seq a b => a.size + b.size
  | .alt a b => a.size + b.size + 1
  | .star _ body => body.size + 1
  | .plus _ body => body.size + 1

/-- The code of the node, placed at the address `base` and left for the address `next`. -/
def code : Node → (base next : Nat) → List Instr
  | .empty, _, next => [.jump next]
  | .set s, _, next => [.char s next]
  | .look l, _, next => [.look l next]
  | .capture index body, base, next =>
    .save (2 * index) (base + 1) ::
      (body.code (base + 1) (base + 1 + body.size) ++ [.save (2 * index + 1) next])
  | .seq a b, base, next => a.code base (base + a.size) ++ b.code (base + a.size) next
  | .alt a b, base, next =>
    .split (base + 1) (base + 1 + a.size) ::
      (a.code (base + 1) next ++ b.code (base + 1 + a.size) next)
  | .star greedy body, base, next =>
    (if greedy then .split (base + 1) next else .split next (base + 1)) :: body.code (base + 1) base
  | .plus greedy body, base, next =>
    body.code base (base + body.size) ++
      [if greedy then .split base next else .split next base]

@[simp]
theorem length_code (n : Node) (base next : Nat) : (n.code base next).length = n.size := by
  induction n generalizing base next with
  | empty => rfl
  | set => rfl
  | look => rfl
  | capture index body ih => simp [code, size, ih]
  | seq a b iha ihb => simp [code, size, iha, ihb]
  | alt a b iha ihb => simp [code, size, iha, ihb]
  | star greedy body ih => simp [code, size, ih]
  | plus greedy body ih => simp [code, size, ih]

/-- The program that matches the node and keeps the place of the match as group zero. -/
def program (n : Node) : Array Instr :=
  let whole := Node.capture 0 n
  (whole.code 0 whole.size ++ [Instr.accept]).toArray

end Node

end Signpost.Regex
