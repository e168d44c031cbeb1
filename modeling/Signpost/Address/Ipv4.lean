import Signpost.Number.Reading
import Signpost.Text.Split

/-!
# IPv4 addresses

An IPv4 address is a number of 32 bits, written as its four bytes in decimal.
-/

namespace Signpost.Address

abbrev Ipv4 := UInt32

namespace Ipv4

/-- The address with the bytes given, the highest first. -/
def ofBytes (bytes : List Nat) : Ipv4 := .ofNat (bytes.foldl (fun n b => n * 256 + b) 0)

/-- The bytes of the address, the highest first. -/
def bytes (a : Ipv4) : List Nat :=
  let n := a.toNat
  [n / 16777216, n / 65536 % 256, n / 256 % 256, n % 256]

/-- Reads a byte in decimal, without zeros in front of other digits. -/
def byte? (s : List Char) : Option Nat :=
  if s.length > 3 || (s.length > 1 && s.head? == some '0') then none
  else (Number.natural? s).filter (· < 256)

def bytes? (s : List Char) : Option (List Nat) :=
  match (Text.split '.' s).mapM byte? with
  | some [a, b, c, d] => some [a, b, c, d]
  | _ => none

def text (a : Ipv4) : String := String.intercalate "." (a.bytes.map toString)

end Ipv4

end Signpost.Address
