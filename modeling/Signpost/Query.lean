import Signpost.Dict
import Signpost.Text.Split
import Signpost.Text.Utf8
import Signpost.Unicode.Table
import Signpost.Value
import Signpost.Vars

/-!
# Query strings

A query is a list of pairs separated by `&`, each a key and perhaps `=` and a value. In both, `+` is
a blank and a percent sign with two hexadecimal digits is a byte. A key may come several times; its
values keep their order.
-/

namespace Signpost

abbrev Params := Dict (List String)

namespace Query

/-- The value of a byte that is an ASCII hexadecimal digit. -/
def hexByte? (b : UInt8) : Option Nat := Unicode.Table.hexDigit? (Char.ofNat b.toNat)

/-- Replaces percent signs with two hexadecimal digits by the byte they name. -/
def percentDecode : Bytes → Bytes
  | [] => []
  | b :: x :: y :: after =>
    match b == 0x25, hexByte? x, hexByte? y with
    | true, some hi, some lo => .ofNat (hi * 16 + lo) :: percentDecode after
    | _, _, _ => b :: percentDecode (x :: y :: after)
  | b :: rest => b :: percentDecode rest

/-- The text that a key or a value of a query stands for. -/
def decode (s : List Char) : String :=
  let blanks := s.map fun c => if c = '+' then ' ' else c
  String.ofList (Text.Utf8.decodeLossy (percentDecode (Text.Utf8.encodeChars blanks)))

/-- The key and the value of one piece of a query. -/
def pair (piece : List Char) : String × String :=
  match Text.cut? '=' piece with
  | some (key, value) => (decode key, decode value)
  | none => (decode piece, "")

/-- The pairs of a query in order; empty pieces do not count. -/
def pairs (query : List Char) : List (String × String) :=
  ((Text.split '&' query).filter (!·.isEmpty)).map pair

end Query

namespace Params

/-- The parameters with one more value for the key. -/
def add (p : Params) (key value : String) : Params :=
  p.insert key ((p.get? key).getD [] ++ [value])

def ofQuery (query : String) : Params :=
  (Query.pairs query.toList).foldl (fun p e => p.add e.1 e.2) Dict.empty

def first? (p : Params) (key : String) : Option String :=
  (p.get? key).bind List.head?

end Params

/-- A parameter that cannot be read as a value of the kind asked for. -/
structure ValueFault where
  key : String
  value : String
  deriving DecidableEq, Repr, Inhabited

namespace ValueFault

def message (f : ValueFault) : String :=
  "invalid value '" ++ f.value ++ "' for parameter '" ++ f.key ++ "'"

end ValueFault

namespace Params

/-- The first value of the key read as a value of the kind, and whether the key is there. A key that
is missing or starts with an empty text has the value `default`. -/
def read (p : Params) (k : Kind) (key : String) (default : Value) :
    Except ValueFault (Value × Bool) :=
  match p.first? key with
  | none | some "" => .ok (default, p.contains key)
  | some raw =>
    match k.read? raw with
    | some value => .ok (value, true)
    | none => .error ⟨key, raw⟩

/-- All values of the key read as values of the kind. -/
def readAll (p : Params) (k : Kind) (key : String) : Except ValueFault (Option (List Value)) :=
  match p.get? key with
  | none => .ok none
  | some all => do
    let values ← all.mapM fun raw =>
      match k.read? raw with
      | some value => .ok value
      | none => .error ⟨key, raw⟩
    return some values

end Params

namespace Vars

/-- The variable read as a value of the kind; an empty one has none. -/
def read? (vars : Vars) (k : Kind) (name : String) : Option Value :=
  match vars.get? name with
  | none | some "" => none
  | some raw => k.read? raw

end Vars

end Signpost
