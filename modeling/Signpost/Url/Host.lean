import Signpost.Address.Ipv6
import Signpost.Idna.Domain
import Signpost.Query
import Signpost.Url.Fault
import Signpost.Url.Percent

/-!
# Hosts of URLs

The host of a URL is a domain name or an IP address. An IPv4 address may have fewer than four
numbers, and each may be decimal, octal or hexadecimal; a host whose last label is a number has to
be one.
-/

namespace Signpost.Url

open Address (Ipv4 Ipv6)

/-- A host as it is written in a URL. -/
inductive Host where
  | name (text : String)
  | ipv4 (address : Ipv4)
  | ipv6 (address : Ipv6)
  deriving DecidableEq, Repr

namespace Host

def text : Host → String
  | .name text => text
  | .ipv4 address => address.text
  | .ipv6 address => "[" ++ address.text ++ "]"

/-! ## Numbers -/

def digits? (base : Nat) (s : List Char) : Option Nat := do
  let ds ← s.mapM Unicode.Table.hexDigit?
  if ds.all (· < base) then some (ds.foldl (fun n d => n * base + d) 0) else none

/-- Reads a number of an IPv4 address. One that starts with `0x` is hexadecimal, another that starts
with zero is octal; without digits it is zero. -/
def number? : List Char → Option Nat
  | [] => none
  | '0' :: 'x' :: rest | '0' :: 'X' :: rest => digits? 16 rest
  | '0' :: c :: rest => digits? 8 (c :: rest)
  | s => digits? 10 s

/-- The labels of a domain name; a dot at its end does not count. -/
def labels (domain : List Char) : List (List Char) :=
  let all := Text.split '.' domain
  if all.getLast? = some [] then all.dropLast else all

/-- Whether the last label of the domain name is a number. -/
def endsInNumber (domain : List Char) : Bool :=
  match (labels domain).getLast? with
  | none => false
  | some last => (!last.isEmpty && last.all Char.isDigit) || (number? last).isSome

/-- The address that numbers stand for. All but the last are bytes; the last fills what they
leave. -/
def ipv4OfNumbers? (numbers : List Nat) : Option Ipv4 :=
  let front := numbers.dropLast
  match numbers.getLast? with
  | none => none
  | some last =>
    if numbers.length ≤ 4 ∧ front.all (· < 256) ∧ last < 1 <<< (8 * (4 - front.length)) then
      some (.ofNat (front.foldl (fun n b => n * 256 + b) 0 <<< (8 * (4 - front.length)) + last))
    else none

/-- Reads an IPv4 address in any of its forms. -/
def ipv4? (domain : List Char) : Option Ipv4 :=
  ((labels domain).mapM number?).bind ipv4OfNumbers?

/-! ## Hosts -/

def ofBrackets (s : List Char) : Except Fault Host :=
  if s.getLast? = some ']' then
    match Ipv6.read? s.tail.dropLast with
    | some address => .ok (.ipv6 address)
    | none => .error .badIpv6
  else .error .badIpv6

/-- Reads the host of a URL whose scheme gives it a meaning. -/
def ofSpecial (s : List Char) : Except Fault Host :=
  if s.head? = some '[' then ofBrackets s
  else
    match Text.Utf8.decode? (Query.percentDecode (Text.Utf8.encodeChars s)) with
    | none => .error .badName
    | some domain =>
      match Idna.toAscii? domain with
      | none => .error .badName
      | some [] => .error .emptyHost
      | some ascii =>
        if endsInNumber ascii then
          match ipv4? ascii with
          | some address => .ok (.ipv4 address)
          | none => .error .badIpv4
        else .ok (.name (String.ofList ascii))

/-- Whether the character cannot stand in a host. -/
def isForbidden (c : Char) : Bool :=
  c == '\x00' || "\t\n\r #/:<>?@[\\]^|".toList.contains c

def ofOpaque (s : List Char) : Except Fault Host :=
  if s.head? = some '[' then ofBrackets s
  else if s.any isForbidden then .error .badHostCharacter
  else .ok (.name (String.ofList (Percent.encode .host s)))

end Host

end Signpost.Url
