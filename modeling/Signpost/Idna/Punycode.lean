/-!
# Punycode

A label is written in ASCII as its ASCII characters followed, behind a hyphen, by where the others
stand: in ascending order, each as its distance from the one before, a number whose digits have the
base 36 and whose ends are marked by thresholds that follow the numbers written so far.
-/

namespace Signpost.Idna.Punycode

def digit (value : Nat) : Char :=
  if value < 26 then Char.ofNat (0x61 + value) else Char.ofNat (0x30 + (value - 26))

def value? (c : Char) : Option Nat :=
  if c.isLower then some (c.toNat - 0x61)
  else if c.isUpper then some (c.toNat - 0x41)
  else if c.isDigit then some (c.toNat - 0x30 + 26)
  else none

/-- A digit at the weight `k` is the last one of its number if it is below this. -/
def threshold (k bias : Nat) : Nat := min 26 (max 1 (k - bias))

theorem threshold_pos (k bias : Nat) : 0 < threshold k bias := by
  unfold threshold; omega

/-- Divides a distance until it is small, counting the weights. -/
def settle (delta k : Nat) : Nat × Nat :=
  if h : 455 < delta then settle (delta / 35) (k + 36) else (delta, k)
  termination_by delta
  decreasing_by omega

/-- The bias after a distance; `count` characters are known with the new one. -/
def adapt (delta count : Nat) (first : Bool) : Nat :=
  let delta := if first then delta / 700 else delta / 2
  let (delta, k) := settle (delta + delta / count) 0
  k + 36 * delta / (delta + 38)

/-! ## Writing -/

def writeDelta (bias k delta : Nat) : List Char :=
  if h : delta < threshold k bias then [digit delta]
  else
    let t := threshold k bias
    digit (t + (delta - t) % (36 - t)) :: writeDelta bias (k + 36) ((delta - t) / (36 - t))
  termination_by delta
  decreasing_by
    have := threshold_pos k bias
    exact Nat.lt_of_le_of_lt (Nat.div_le_self _ _) (by omega)

/-- What was written, the distance from the last character written, and what it depends on. -/
structure Writer where
  digits : List Char := []
  delta : Nat := 0
  bias : Nat := 72
  /-- How many characters are written. -/
  count : Nat
  first : Bool := true

/-- Passes one character of the label while the characters `n` are written. -/
def Writer.pass (w : Writer) (n : Nat) (c : Char) : Writer :=
  if c.toNat < n then { w with delta := w.delta + 1 }
  else if c.toNat = n then
    { digits := w.digits ++ writeDelta w.bias 36 w.delta
      delta := 0
      bias := adapt w.delta (w.count + 1) w.first
      count := w.count + 1
      first := false }
  else w

/-- Writes the characters with the code points given, which ascend; the next code point to write
would be `n`. -/
def Writer.passAll (label : List Char) : (codePoints : List Nat) → (n : Nat) → Writer → Writer
  | [], _, w => w
  | m :: rest, n, w =>
    let w := { w with delta := w.delta + (m - n) * (w.count + 1) }
    let w := label.foldl (fun w c => w.pass m c) w
    Writer.passAll label rest (m + 1) { w with delta := w.delta + 1 }

/-- Whether the character is an ASCII character. -/
def isAscii (c : Char) : Bool := c.toNat < 0x80

def encode (label : List Char) : List Char :=
  let basic := label.filter isAscii
  let others := ((label.filter (!isAscii ·)).map Char.toNat).mergeSort.eraseDups
  let start := if basic.isEmpty then [] else basic ++ ['-']
  start ++ (Writer.passAll label others 128 { count := basic.length }).digits

/-! ## Reading -/

/-- Reads a distance. Answers it with the rest. -/
def readDelta (bias k weight sum : Nat) : List Char → Option (Nat × List Char)
  | [] => none
  | c :: rest =>
    match value? c with
    | none => none
    | some d =>
      let t := threshold k bias
      if d < t then some (sum + d * weight, rest)
      else readDelta bias (k + 36) (weight * (36 - t)) (sum + d * weight) rest

theorem readDelta_length {bias k weight sum d : Nat} {s rest : List Char}
    (h : readDelta bias k weight sum s = some (d, rest)) : rest.length < s.length := by
  induction s generalizing k weight sum with
  | nil => simp [readDelta] at h
  | cons c s ih =>
    rw [readDelta] at h
    split at h
    · simp at h
    · dsimp only at h
      split at h
      · simp only [Option.some.injEq, Prod.mk.injEq] at h
        simp [← h.2]
      · have := ih h
        simp only [List.length_cons]
        omega

/-- Reads the places of characters into a label. The last character read was `n`, at the place
before `i`. -/
def readPlaces (n i bias : Nat) (first : Bool) (label : List Char) (s : List Char) :
    Option (List Char) :=
  if s.isEmpty then some label
  else
    match _h : readDelta bias 36 1 0 s with
    | none => none
    | some (delta, rest) =>
      let count := label.length + 1
      let n := n + (i + delta) / count
      let i := (i + delta) % count
      if n.isValidChar then
        readPlaces n (i + 1) (adapt delta count first) false
          (label.take i ++ Char.ofNat n :: label.drop i) rest
      else none
  termination_by s.length
  decreasing_by exact readDelta_length _h

def decode? (s : List Char) : Option (List Char) :=
  let basic := ((s.reverse.dropWhile (· != '-')).drop 1).reverse
  let rest := (s.reverse.takeWhile (· != '-')).reverse
  if basic.all isAscii then readPlaces 128 0 72 true basic rest else none

end Signpost.Idna.Punycode
