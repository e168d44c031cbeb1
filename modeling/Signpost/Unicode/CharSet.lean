/-!
# Sets of characters

A `CharSet` is a list of closed code point intervals, ascending, disjoint and not touching.
The operations keep that form, so a set has one representation and its size can be read off it.
Code points that are no characters (the surrogates) may lie in an interval; no character hits them.
-/

namespace Signpost.Unicode

/-- The code points from `lo` to `hi`, both included. -/
structure Interval where
  lo : Nat
  hi : Nat
  deriving DecidableEq, Repr, Inhabited

namespace Interval

def contains (i : Interval) (n : Nat) : Bool :=
  i.lo ≤ n && n ≤ i.hi

end Interval

/-- A set of characters as ascending intervals with a gap between any two neighbours. -/
structure CharSet where
  intervals : List Interval
  deriving DecidableEq, Repr, Inhabited

namespace CharSet

def maxCodePoint : Nat := 0x10FFFF

def empty : CharSet := ⟨[]⟩

def full : CharSet := ⟨[⟨0, maxCodePoint⟩]⟩

def range (lo hi : Nat) : CharSet :=
  if lo ≤ hi then ⟨[⟨lo, hi⟩]⟩ else empty

def single (c : Char) : CharSet := ⟨[⟨c.toNat, c.toNat⟩]⟩

def contains (s : CharSet) (c : Char) : Bool :=
  s.intervals.any fun i => i.contains c.toNat

/-- Adds one interval to ascending intervals, joining it with all that it meets or touches. -/
def insertInterval (i : Interval) : List Interval → List Interval
  | [] => [i]
  | j :: rest =>
    if i.hi + 1 < j.lo then i :: j :: rest
    else if j.hi + 1 < i.lo then j :: insertInterval i rest
    else insertInterval ⟨min i.lo j.lo, max i.hi j.hi⟩ rest

def insertRange (s : CharSet) (lo hi : Nat) : CharSet :=
  if lo ≤ hi then ⟨insertInterval ⟨lo, hi⟩ s.intervals⟩ else s

/-- The set of the given inclusive ranges, in any order. -/
def ofRanges (ranges : List (Nat × Nat)) : CharSet :=
  ranges.foldl (fun s r => s.insertRange r.1 r.2) empty

def ofChars (chars : List Char) : CharSet :=
  chars.foldl (fun s c => s.insertRange c.toNat c.toNat) empty

def union (s t : CharSet) : CharSet :=
  ⟨t.intervals.foldr insertInterval s.intervals⟩

/-- The gaps between ascending intervals, from the code point `start` upwards. -/
def gaps (start : Nat) : List Interval → List Interval
  | [] => if start ≤ maxCodePoint then [⟨start, maxCodePoint⟩] else []
  | i :: rest =>
    if start < i.lo then ⟨start, i.lo - 1⟩ :: gaps (i.hi + 1) rest
    else gaps (i.hi + 1) rest

def complement (s : CharSet) : CharSet :=
  ⟨gaps 0 s.intervals⟩

def inter (s t : CharSet) : CharSet :=
  (s.complement.union t.complement).complement

def diff (s t : CharSet) : CharSet :=
  s.inter t.complement

/-- The characters of exactly one of the sets. -/
def symmDiff (s t : CharSet) : CharSet :=
  (s.union t).diff (s.inter t)

/-- Whether no character above U+007F is in the set. -/
def isAscii (s : CharSet) : Bool :=
  s.intervals.all fun i => i.hi ≤ 0x7F

@[simp]
theorem contains_single (c d : Char) : (single c).contains d = (c == d) := by
  by_cases h : c = d
  · simp [single, contains, Interval.contains, h]
  · have hne : c.toNat ≠ d.toNat := fun hn => h (Char.toNat_inj.mp hn)
    simp only [single, contains, Interval.contains, List.any_cons, List.any_nil, Bool.or_false,
      beq_eq_false_iff_ne.mpr h, Bool.and_eq_false_iff, decide_eq_false_iff_not]
    omega

end CharSet

end Signpost.Unicode
