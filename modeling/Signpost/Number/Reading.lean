import Signpost.Number.Binary

/-!
# Reading numbers

An integer is an optional sign and ASCII digits. A number with a fraction has digits on at least one
side of its point, and perhaps an exponent; infinity and "not a number" are written as words in any
case.
-/

namespace Signpost.Number

def digitsValue (ds : List Char) : Nat :=
  ds.foldl (fun n d => n * 10 + (d.toNat - '0'.toNat)) 0

/-- Reads digits, at least one, that make up the whole text. -/
def natural? (s : List Char) : Option Nat :=
  if s.isEmpty || !s.all Char.isDigit then none else some (digitsValue s)

/-- An optional sign, as whether the number is negative, and what follows it. -/
def signed : List Char → Bool × List Char
  | '-' :: rest => (true, rest)
  | '+' :: rest => (false, rest)
  | s => (false, s)

/-- Reads an integer from `lo` to `hi`. A minus sign is refused where no number is negative. -/
def integer? (lo hi : Int) (s : List Char) : Option Int := do
  let (negative, ds) := signed s
  if negative && lo = 0 then none
  let n ← natural? ds
  let i : Int := if negative then -n else n
  if lo ≤ i ∧ i ≤ hi then some i else none

/-- A decimal number: its digits without the point, and the power of ten they are scaled by. -/
structure Decimal where
  digits : Nat
  exponent : Int
  deriving DecidableEq, Repr, Inhabited

def exponent? (s : List Char) : Option Int := do
  let (negative, ds) := signed s
  let n ← natural? ds
  return if negative then -n else n

def decimal? (s : List Char) : Option Decimal := do
  let whole := s.takeWhile Char.isDigit
  let (fraction, rest) := match s.dropWhile Char.isDigit with
    | '.' :: rest => (rest.takeWhile Char.isDigit, rest.dropWhile Char.isDigit)
    | rest => ([], rest)
  if whole.isEmpty && fraction.isEmpty then none
  let scale ← match rest with
    | [] => some 0
    | c :: rest => if c = 'e' ∨ c = 'E' then exponent? rest else none
  return ⟨digitsValue (whole ++ fraction), scale - fraction.length⟩

/-- Reads a number as the bits of a binary format. -/
def float? (f : BinaryFormat) (s : List Char) : Option Nat := do
  let (negative, body) := signed s
  let bits ← match String.ofList (body.map Char.toLower) with
    | "inf" | "infinity" => some f.infinity
    | "nan" => some f.nan
    | _ => (decimal? body).map fun d => f.ofDecimal d.digits d.exponent
  return if negative then bits + f.signBit else bits

end Signpost.Number
