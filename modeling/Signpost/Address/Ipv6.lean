import Signpost.Address.Ipv4
import Signpost.Unicode.Table

/-!
# IPv6 addresses

An IPv6 address is eight groups of 16 bits, written in hexadecimal. One run of zero groups can be
left out, and the last two groups can be written like an IPv4 address.
-/

namespace Signpost.Address

/-- An IPv6 address. -/
structure Ipv6 where
  groups : List Nat
  length_eq : groups.length = 8
  deriving DecidableEq, Repr

namespace Ipv6

/-- Reads a group of one to four hexadecimal digits. -/
def group? (s : List Char) : Option Nat :=
  if s.isEmpty || s.length > 4 then none
  else (s.mapM Unicode.Table.hexDigit?).map fun ds => ds.foldl (fun n d => n * 16 + d) 0

/-- Reads the pieces between colons as groups. The last piece is two groups if it is an IPv4 address
and `mixed` allows it. -/
def groupsOf? (mixed : Bool) : List (List Char) → Option (List Nat)
  | [] => some []
  | [last] =>
    match group? last, mixed, Ipv4.bytes? last with
    | some g, _, _ => some [g]
    | none, true, some [a, b, c, d] => some [a * 256 + b, c * 256 + d]
    | _, _, _ => none
  | piece :: rest => do return (← group? piece) :: (← groupsOf? mixed rest)

/-- Reads groups separated by colons; the empty text has none. -/
def groups? (mixed : Bool) (s : List Char) : Option (List Nat) :=
  if s.isEmpty then some [] else groupsOf? mixed (Text.split ':' s)

/-- The text before the first `::` and the text after it, if there is one. -/
def cutGap? : List Char → Option (List Char × List Char)
  | [] => none
  | ':' :: ':' :: rest => some ([], rest)
  | c :: rest => (cutGap? rest).map fun (before, after) => (c :: before, after)

/-- The address with the groups, if there are eight of them. -/
def ofGroups? (groups : List Nat) : Option Ipv6 :=
  if h : groups.length = 8 then some ⟨groups, h⟩ else none

/-- Reads an address. What is left out is at least one group. -/
def read? (s : List Char) : Option Ipv6 :=
  match cutGap? s with
  | none => (groups? true s).bind ofGroups?
  | some (before, after) => do
    let front ← groups? false before
    let back ← groups? true after
    if front.length + back.length < 8 then
      ofGroups? (front ++ List.replicate (8 - front.length - back.length) 0 ++ back)
    else none

/-- The first of the longest runs of zero groups, as its position and its length; the groups start
at position `i`. -/
def longestGap (i : Nat) : List Nat → Nat × Nat
  | [] => (i, 0)
  | g :: rest =>
    let here := ((g :: rest).takeWhile (· = 0)).length
    let later := longestGap (i + 1) rest
    if here ≥ later.2 then (i, here) else later

/-- The address in hexadecimal. Of the runs of two and more zero groups, the first of the longest is
left out. -/
def text (a : Ipv6) : String :=
  let write (groups : List Nat) : String :=
    String.intercalate ":" (groups.map fun g => String.ofList (Nat.toDigits 16 g))
  let (start, length) := longestGap 0 a.groups
  if length < 2 then write a.groups
  else write (a.groups.take start) ++ "::" ++ write (a.groups.drop (start + length))

end Ipv6

end Signpost.Address
