import Signpost.Datum
import Signpost.Number.Reading
import Signpost.Toml.Lexeme

/-!
# Numbers, dates and truth values

An integer is decimal, or hexadecimal, octal or binary behind a prefix, and fits into 64 bits.
Underscores may stand between digits.
-/

namespace Signpost.Toml

open Text (Reader)
open Text.Reader

/-! ## Numbers -/

/-- Digits with single underscores between them. -/
def digits (isDigit : Char → Bool) : Reader (List Char) := do
  let first ← char isDigit
  let more ← many (char isDigit <|> (literal ['_'] *> char isDigit))
  return first :: more

def sign : Reader (List Char) := do
  let c ← option (char fun c => c == '+' || c == '-')
  return c.toList

/-- A decimal integer without zeros in front. -/
def decimal : Reader (List Char) := do
  let s ← sign
  let ds ← ((fun c => [c]) <$> char (· == '0')) <|> digits Char.isDigit
  return s ++ ds

def minInteger : Int := -0x8000000000000000
def maxInteger : Int := 0x7FFFFFFFFFFFFFFF

/-- The integer that the digits behind a prefix stand for. -/
def prefixed (start : List Char) (base : Nat) : Reader Int := do
  literal start
  let isDigit (c : Char) : Bool := (Unicode.Table.hexDigit? c).any (decide <| · < base)
  let ds ← digits isDigit
  let n := ds.foldl (fun n d => n * base + (Unicode.Table.hexDigit? d).getD 0) 0
  guard ((n : Int) ≤ maxInteger)
  return n

def integer : Reader Int :=
  prefixed ['0', 'x'] 16 <|> prefixed ['0', 'o'] 8 <|> prefixed ['0', 'b'] 2 <|> do
    let ds ← decimal
    (Number.integer? minInteger maxInteger ds : Option Int)

def exponent : Reader (List Char) := do
  let _ ← char fun c => c == 'e' || c == 'E'
  let s ← sign
  let ds ← digits Char.isDigit
  return 'e' :: s ++ ds

def fraction : Reader (List Char) := do
  literal ['.']
  let ds ← digits Char.isDigit
  return '.' :: ds

/-- A number with a fraction or an exponent. One too great to be told from infinity is refused. -/
def float : Reader Unit := do
  let whole ← decimal
  let tail ← exponent <|> do
    let f ← fraction
    let e ← option exponent
    return f ++ e.getD []
  let bits ← (Number.float? .double (whole ++ tail) : Option Nat)
  guard (bits != 0x7FF0000000000000)

def specialFloat : Reader Unit := do
  let _ ← sign
  literal "inf".toList <|> literal "nan".toList

/-! ## Dates and times -/

/-- A number of `n` digits from `lo` to `hi`. -/
def field (n lo hi : Nat) : Reader Nat := do
  let v := Number.digitsValue (← take n Char.isDigit)
  guard (lo ≤ v && v ≤ hi)
  return v

def daysIn (year month : Nat) : Nat :=
  match month with
  | 2 => if year % 4 = 0 ∧ (year % 100 ≠ 0 ∨ year % 400 = 0) then 29 else 28
  | 4 | 6 | 9 | 11 => 30
  | _ => 31

def date : Reader Unit := do
  let year ← field 4 0 9999
  literal ['-']
  let month ← field 2 1 12
  literal ['-']
  let _ ← field 2 1 (daysIn year month)

def time : Reader Unit := do
  let _ ← field 2 0 23
  literal [':']
  let _ ← field 2 0 59
  literal [':']
  let _ ← field 2 0 60
  let _ ← option (literal ['.'] *> takeWhile1 Char.isDigit)

def offset : Reader Unit := do
  let zulu ← option (char fun c => c == 'Z' || c == 'z')
  if zulu.isNone then
    let _ ← char fun c => c == '+' || c == '-'
    let _ ← field 2 0 23
    literal [':']
    let _ ← field 2 0 59

def moment : Reader Unit :=
  (do
    date
    let _ ← option do
      let _ ← char fun c => c == 'T' || c == 't' || c == ' '
      time
      option offset) <|> time

def scalar : Reader Datum :=
  Datum.text <$> text <|> (moment *> pure .moment) <|> (float *> pure .other) <|>
    (specialFloat *> pure .other) <|> Datum.integer <$> integer <|>
    (literal "true".toList *> pure .other) <|> (literal "false".toList *> pure .other)

end Signpost.Toml
