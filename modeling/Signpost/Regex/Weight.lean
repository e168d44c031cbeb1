import Signpost.Regex.Expr

/-!
# The size limit

An expression with large counts would make an enormous machine, so its size is reckoned before it is
built. What is counted is a machine over the bytes of UTF-8 text: thirty-two bytes for each state,
and a class takes a state for every different beginning of the byte sequences of its characters.
-/

namespace Signpost.Regex

open Signpost.Unicode (CharSet Interval)

/-- The largest machine that is accepted, in bytes. -/
def sizeLimit : Nat := 10 * 1024 * 1024

namespace Utf8

def encode (n : Nat) : List Nat :=
  if n < 0x80 then [n]
  else if n < 0x800 then [0xC0 + n / 64, 0x80 + n % 64]
  else if n < 0x10000 then [0xE0 + n / 4096, 0x80 + n / 64 % 64, 0x80 + n % 64]
  else [0xF0 + n / 262144, 0x80 + n / 4096 % 64, 0x80 + n / 64 % 64, 0x80 + n % 64]

/-- The byte ranges that the code points from `lo` to `hi` run through, all of one length. -/
def ranges (lo hi : Nat) : List (Nat × Nat) :=
  (encode lo).zip (encode hi)

/-- The place where an interval has to be cut, so that its byte sequences have one length and run
over whole ranges: the last code point of the first part. -/
def cut? (lo hi : Nat) : Option Nat :=
  let borders := [0x7F, 0x7FF, 0xD7FF, 0xDFFF, 0xFFFF]
  match borders.find? fun b => lo ≤ b && b < hi with
  | some b => some b
  | none =>
    [64, 4096, 262144].findSome? fun m =>
      if hi ≤ 0x7F || lo / m = hi / m then none
      else if lo % m ≠ 0 then some (lo / m * m + m - 1)
      else if hi % m ≠ m - 1 then some (hi / m * m - 1)
      else none

/-- The byte sequences of an interval in order. -/
def sequences : (fuel : Nat) → Interval → List (List (Nat × Nat))
  | 0, _ => []
  | fuel + 1, i =>
    match cut? i.lo i.hi with
    | some b => sequences fuel ⟨i.lo, b⟩ ++ sequences fuel ⟨b + 1, i.hi⟩
    | none => if 0xD800 ≤ i.lo && i.hi ≤ 0xDFFF then [] else [ranges i.lo i.hi]

def commonLength : List (Nat × Nat) → List (Nat × Nat) → Nat
  | a :: as, b :: bs => if a = b then commonLength as bs + 1 else 0
  | _, _ => 0

/-- How many different beginnings the sequences have, each compared with the one before it. -/
def beginnings (before : List (Nat × Nat)) : List (List (Nat × Nat)) → Nat
  | [] => 0
  | s :: rest => s.length - commonLength before s + beginnings s rest

end Utf8

def setWeight (s : CharSet) : Nat :=
  match s.intervals with
  | [i] => if i.lo = i.hi then 32 * (Utf8.encode i.lo).length else classWeight s
  | _ => classWeight s
where
  /-- The bytes for a class of several characters. -/
  classWeight (s : CharSet) : Nat :=
    if s.isAscii then 64 + 8 * s.intervals.length
    else
      let seqs := s.intervals.flatMap (Utf8.sequences 64)
      64 + 4 * seqs.length + 32 * Utf8.beginnings [] seqs

namespace Expr

/-- The bytes of the machine for the expression. -/
def weight : Expr → Nat
  | .empty | .look _ => 32
  | .set s => setWeight s
  | .capture _ _ body => body.weight + 64
  | .repetition lo none _ body => max lo 1 * body.weight + 40
  | .repetition lo (some hi) _ body => hi * body.weight + (hi - lo) * 40 + 32
  | .seq a b => a.weight + b.weight
  | .alt a b => a.weight + b.weight + 40

end Expr

end Signpost.Regex
