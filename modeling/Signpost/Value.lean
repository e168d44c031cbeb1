import Signpost.Number.Reading

/-!
# Typed values

Parameters come as texts and are read as values of a kind. A truth value is one of six words each
way; a text is itself.
-/

namespace Signpost

/-- A kind of value. -/
inductive Kind where
  | int (signed : Bool) (bits : Nat)
  | float (format : Number.BinaryFormat)
  | bool
  | text
  deriving DecidableEq, Repr, Inhabited

/-- A value; a floating-point number is given by its bits. -/
inductive Value where
  | int (n : Int)
  | float (format : Number.BinaryFormat) (bits : Nat)
  | bool (b : Bool)
  | text (s : String)
  deriving DecidableEq, Repr, Inhabited

namespace Kind

def minInt (signed : Bool) (bits : Nat) : Int := if signed then -(1 <<< (bits - 1) : Nat) else 0

def maxInt (signed : Bool) (bits : Nat) : Int :=
  if signed then (1 <<< (bits - 1) : Nat) - 1 else (1 <<< bits : Nat) - 1

def boolOf? (raw : String) : Option Bool :=
  if ["1", "t", "T", "TRUE", "true", "True"].contains raw then some true
  else if ["0", "f", "F", "FALSE", "false", "False"].contains raw then some false
  else none

def read? (k : Kind) (raw : String) : Option Value :=
  match k with
  | .int signed bits =>
    (Number.integer? (minInt signed bits) (maxInt signed bits) raw.toList).map .int
  | .float format => (Number.float? format raw.toList).map (.float format)
  | .bool => (boolOf? raw).map .bool
  | .text => some (.text raw)

def zero : Kind → Value
  | .int _ _ => .int 0
  | .float format => .float format 0
  | .bool => .bool false
  | .text => .text ""

end Kind

end Signpost
