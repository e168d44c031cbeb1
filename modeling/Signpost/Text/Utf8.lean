/-!
# UTF-8

Texts are written as bytes in UTF-8. Reading is either strict, so that bytes which are not UTF-8 are
refused, or lossy, so that every longest beginning of a character that is broken off becomes one
replacement character.
-/

namespace Signpost

abbrev Bytes := List UInt8

namespace Text.Utf8

def encodeChar (c : Char) : Bytes :=
  let n := c.toNat
  if n < 0x80 then [.ofNat n]
  else if n < 0x800 then [.ofNat (0xC0 + n / 64), .ofNat (0x80 + n % 64)]
  else if n < 0x10000 then
    [.ofNat (0xE0 + n / 4096), .ofNat (0x80 + n / 64 % 64), .ofNat (0x80 + n % 64)]
  else
    [.ofNat (0xF0 + n / 262144), .ofNat (0x80 + n / 4096 % 64), .ofNat (0x80 + n / 64 % 64),
      .ofNat (0x80 + n % 64)]

def encodeChars (s : List Char) : Bytes := s.flatMap encodeChar

def encode (s : String) : Bytes := encodeChars s.toList

/-- How many bytes follow a leading byte, the least and the greatest value of the first of these,
and the bits that the leading byte adds to the code point. -/
def leading? (b : Nat) : Option (Nat × Nat × Nat × Nat) :=
  if b < 0x80 then some (0, 0, 0, b)
  else if b < 0xC2 then none
  else if b < 0xE0 then some (1, 0x80, 0xBF, b - 0xC0)
  else if b = 0xE0 then some (2, 0xA0, 0xBF, 0)
  else if b = 0xED then some (2, 0x80, 0x9F, 0xD)
  else if b < 0xF0 then some (2, 0x80, 0xBF, b - 0xE0)
  else if b = 0xF0 then some (3, 0x90, 0xBF, 0)
  else if b < 0xF4 then some (3, 0x80, 0xBF, b - 0xF0)
  else if b = 0xF4 then some (3, 0x80, 0x8F, 4)
  else none

/-- Takes the bytes that still belong to a character. Answers its code point, if all of them are
there, and how many were taken. -/
def continuation : (count lo hi n : Nat) → Bytes → Option Nat × Nat
  | 0, _, _, n, _ => (some n, 0)
  | _ + 1, _, _, _, [] => (none, 0)
  | count + 1, lo, hi, n, b :: rest =>
    if lo ≤ b.toNat ∧ b.toNat ≤ hi then
      let (c, taken) := continuation count 0x80 0xBF (n * 64 + b.toNat % 64) rest
      (c, taken + 1)
    else (none, 0)

/-- The character that starts with the byte `b`, if it is complete, and the number of bytes after
`b` that were used up. -/
def decodeChar (b : UInt8) (rest : Bytes) : Option Char × Nat :=
  match leading? b.toNat with
  | none => (none, 0)
  | some (count, lo, hi, n) =>
    let (c, taken) := continuation count lo hi n rest
    (c.map Char.ofNat, taken)

def replacement : Char := '\ufffd'

/-- Reads bytes as characters; what is not UTF-8 becomes replacement characters. -/
def decodeLossy : Bytes → List Char
  | [] => []
  | b :: rest =>
    (decodeChar b rest).1.getD replacement :: decodeLossy (rest.drop (decodeChar b rest).2)
  termination_by bytes => bytes.length
  decreasing_by simp only [List.length_drop, List.length_cons]; omega

/-- Reads bytes as characters, if they are UTF-8. -/
def decode? : Bytes → Option (List Char)
  | [] => some []
  | b :: rest =>
    match (decodeChar b rest).1 with
    | some c => (decode? (rest.drop (decodeChar b rest).2)).map (c :: ·)
    | none => none
  termination_by bytes => bytes.length
  decreasing_by simp only [List.length_drop, List.length_cons]; omega

end Text.Utf8

end Signpost
