/-!
# Binary floating-point numbers

A decimal number is turned into the nearest number of a binary format; of two that are equally near,
the one with the even last bit is taken. Numbers are given as the bits that encode them.
-/

namespace Signpost.Number

/-- A binary format: the bits of the significand with the leading one, the exponent of the last bit
of the smallest number, and the largest value of the exponent field. -/
structure BinaryFormat where
  precision : Nat
  minExponent : Int
  maxField : Nat
  deriving DecidableEq, Repr, Inhabited

namespace BinaryFormat

def single : BinaryFormat := ⟨24, -149, 255⟩

def double : BinaryFormat := ⟨53, -1074, 2047⟩

def infinity (f : BinaryFormat) : Nat := f.maxField <<< (f.precision - 1)

def nan (f : BinaryFormat) : Nat := f.infinity + (1 <<< (f.precision - 2))

def signBit (f : BinaryFormat) : Nat := (f.maxField + 1) <<< (f.precision - 1)

/-- Whether the bits, apart from the sign, encode no number. -/
def isNan (f : BinaryFormat) (bits : Nat) : Bool := bits % f.signBit > f.infinity

end BinaryFormat

/-- The integer nearest to `num / den`; of two, the even one. -/
def roundDiv (num den : Nat) : Nat :=
  let q := num / den
  let r := num % den
  if 2 * r < den then q
  else if 2 * r > den then q + 1
  else if q % 2 = 0 then q else q + 1

/-- The exponent of the leading bit of `num / den`, for positive numbers. -/
def leadingExponent (num den : Nat) : Int :=
  let e : Int := (num.log2 : Int) - (den.log2 : Int)
  let below : Bool := if 0 ≤ e then num < den <<< e.toNat else num <<< (-e).toNat < den
  if below then e - 1 else e

namespace BinaryFormat

/-- The bits of the number nearest to `num / den`. The exponent field counts from the smallest
exponent, so that a carry out of the significand goes where it belongs. -/
def ofRatio (f : BinaryFormat) (num den : Nat) : Nat :=
  if num = 0 then 0
  else
    let k := max f.minExponent (leadingExponent num den - (f.precision - 1 : Nat))
    let q :=
      if 0 ≤ k then roundDiv num (den <<< k.toNat) else roundDiv (num <<< (-k).toNat) den
    min f.infinity ((k - f.minExponent).toNat <<< (f.precision - 1) + q)

def decimalLength (n : Nat) : Nat := (Nat.toDigits 10 n).length

/-- The bits of the number nearest to `n * 10 ^ exponent`. Numbers far outside the range of any
format are cut short. -/
def ofDecimal (f : BinaryFormat) (n : Nat) (exponent : Int) : Nat :=
  let magnitude := exponent + decimalLength n
  if n = 0 ∨ magnitude < -400 then 0
  else if magnitude > 400 then f.infinity
  else if 0 ≤ exponent then f.ofRatio (n * Nat.pow 10 exponent.toNat) 1
  else f.ofRatio n (Nat.pow 10 (-exponent).toNat)

end BinaryFormat

end Signpost.Number
