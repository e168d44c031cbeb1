import Signpost.Unicode.CombiningClass
import Signpost.Unicode.Decomposition

/-!
# Canonical composition

Texts that differ in how their accents are written have one composed form: every character is taken
apart, marks are put in order of their classes, and what composes is put together again.
-/

namespace Signpost.Unicode.Normalization

/-! ## Hangul -/

/-- The syllable blocks: the first code points of leading consonants, vowels, trailing consonants
and syllables, and how many vowels and trailing consonants there are. -/
def leadBase : Nat := 0x1100
def vowelBase : Nat := 0x1161
def trailBase : Nat := 0x11A7
def syllableBase : Nat := 0xAC00
def leadCount : Nat := 19
def vowelCount : Nat := 21
def trailCount : Nat := 28
def syllableCount : Nat := leadCount * vowelCount * trailCount

def hangulParts (c : Char) : Option (List Char) :=
  let n := c.toNat
  if n < syllableBase ∨ syllableBase + syllableCount ≤ n then none
  else
    let s := n - syllableBase
    let lead := Char.ofNat (leadBase + s / (vowelCount * trailCount))
    let vowel := Char.ofNat (vowelBase + s % (vowelCount * trailCount) / trailCount)
    let trail := s % trailCount
    some (lead :: vowel :: if trail = 0 then [] else [Char.ofNat (trailBase + trail)])

/-- The syllable that two Hangul characters compose to. -/
def hangulPair (a b : Char) : Option Char :=
  let x := a.toNat
  let y := b.toNat
  if leadBase ≤ x ∧ x < leadBase + leadCount ∧ vowelBase ≤ y ∧ y < vowelBase + vowelCount then
    some (Char.ofNat (syllableBase +
      ((x - leadBase) * vowelCount + (y - vowelBase)) * trailCount))
  else if syllableBase ≤ x ∧ x < syllableBase + syllableCount ∧ (x - syllableBase) % trailCount = 0 ∧
      trailBase < y ∧ y < trailBase + trailCount then
    some (Char.ofNat (x + (y - trailBase)))
  else none

/-! ## Taking apart -/

/-- No character has to be taken apart more often than this. -/
def maxSteps : Nat := 4

/-- What a character stands for after at most `steps` steps. -/
def decomposeChar : (steps : Nat) → Char → List Char
  | 0, c => [c]
  | steps + 1, c =>
    match hangulParts c, Decomposition.entry? c with
    | some parts, _ => parts
    | none, some e => e.parts.flatMap (decomposeChar steps)
    | none, none => [c]

/-- Puts a character before a text whose marks are in order. A mark goes behind the marks of lower
classes. -/
def insertMark (c : Char) : List Char → List Char
  | [] => [c]
  | d :: rest =>
    if 0 < CombiningClass.of d ∧ CombiningClass.of d < CombiningClass.of c then d :: insertMark c rest
    else c :: d :: rest

/-- The text taken apart, with its marks in order. -/
def decompose (s : List Char) : List Char :=
  (s.flatMap (decomposeChar maxSteps)).foldr insertMark []

/-! ## Putting together -/

/-- The character that two characters compose to. -/
def pair? (a b : Char) : Option Char :=
  (hangulPair a b).or
    ((Decomposition.compositions.find? fun e => e.1 == a && e.2.1 == b).map (·.2.2))

/-- Composes what follows `starter`. The marks in `kept`, the last one first, stay behind it. -/
def composeAfter (starter : Char) (kept : List Char) : List Char → List Char
  | [] => starter :: kept.reverse
  | c :: rest =>
    let blocked := match kept with
      | [] => false
      | d :: _ => CombiningClass.of c ≤ CombiningClass.of d
    match if blocked then none else pair? starter c with
    | some composed => composeAfter composed kept rest
    | none =>
      if CombiningClass.of c = 0 then starter :: kept.reverse ++ composeAfter c [] rest
      else composeAfter starter (c :: kept) rest

def compose : List Char → List Char
  | [] => []
  | c :: rest => if CombiningClass.of c = 0 then composeAfter c [] rest else c :: compose rest

def composed (s : List Char) : List Char := compose (decompose s)

end Signpost.Unicode.Normalization
