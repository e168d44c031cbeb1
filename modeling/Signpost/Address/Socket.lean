import Signpost.Address.Ipv6

/-!
# Socket addresses

A socket address is an IP address and a port. An IPv6 address stands in brackets, with the number of
its zone behind a percent sign perhaps.
-/

namespace Signpost.Address

/-- Reads digits as a number of at most `bits` bits. -/
def number? (bits : Nat) (s : List Char) : Option Nat :=
  (Number.natural? s).filter (· < 1 <<< bits)

def isPort (s : List Char) : Bool := (number? 16 s).isSome

/-- Whether the text is an IPv6 address with a zone perhaps. -/
def isZonedIpv6 (s : List Char) : Bool :=
  match Text.cut? '%' s with
  | none => (Ipv6.read? s).isSome
  | some (address, zone) => (Ipv6.read? address).isSome && (number? 32 zone).isSome

def isSocketAddress (text : String) : Bool :=
  match text.toList with
  | '[' :: rest =>
    match Text.cut? ']' rest with
    | some (address, ':' :: port) => isZonedIpv6 address && isPort port
    | _ => false
  | s =>
    match Text.cut? ':' s with
    | some (address, port) => (Ipv4.bytes? address).isSome && isPort port
    | none => false

end Signpost.Address
