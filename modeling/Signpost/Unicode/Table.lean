import Signpost.Text.Split
import Signpost.Unicode.CharSet

/-!
# Reading character tables

Character tables are kept as text: words separated by blanks or line ends, code points in
hexadecimal. This module reads such texts and looks values up in tables of runs, where a run
reaches from its first code point to the one before the next run.
-/

namespace Signpost.Unicode.Table

open Text (split)

def hexDigit? (c : Char) : Option Nat :=
  if '0' ≤ c ∧ c ≤ '9' then some (c.toNat - '0'.toNat)
  else if 'a' ≤ c ∧ c ≤ 'f' then some (c.toNat - 'a'.toNat + 10)
  else if 'A' ≤ c ∧ c ≤ 'F' then some (c.toNat - 'A'.toNat + 10)
  else none

/-- The number written by the hexadecimal digits of a table word; other characters count as zero. -/
def hex (word : List Char) : Nat :=
  word.foldl (fun n c => n * 16 + (hexDigit? c).getD 0) 0

/-- The words of a table text, which may run over several lines. -/
def words (text : String) : List (List Char) :=
  (split ' ' (text.toList.map fun c => if c = '\n' then ' ' else c)).filter fun w => !w.isEmpty

def interval (word : List Char) : Interval :=
  match split '-' word with
  | [lo, hi] => ⟨hex lo, hex hi⟩
  | _ => ⟨hex word, hex word⟩

def intervals (text : String) : List Interval :=
  (words text).map interval

/-- Reads a text of runs such as `0:Cc 20:Zs` with `value` for the part after the colon. -/
def runs {α : Type} [Inhabited α] (value : String → α) (text : String) : Array (Nat × α) :=
  ((words text).map fun w =>
    (hex (w.takeWhile (· ≠ ':')), value (String.ofList ((w.dropWhile (· ≠ ':')).drop 1)))).toArray

/-- The index of the last run that starts at or before `n`, searched between `lo` and `hi`. -/
def search {α : Type} [Inhabited α] (table : Array (Nat × α)) (n : Nat) :
    (fuel lo hi : Nat) → Nat
  | 0, lo, _ => lo
  | fuel + 1, lo, hi =>
    if hi ≤ lo + 1 then lo
    else
      let mid := (lo + hi) / 2
      if (table.getD mid (0, default)).1 ≤ n then search table n fuel mid hi
      else search table n fuel lo mid

/-- The value of the run that holds the code point `n`. -/
def lookup {α : Type} [Inhabited α] (table : Array (Nat × α)) (n : Nat) : α :=
  (table.getD (search table n 40 0 table.size) (0, default)).2

/-- The intervals of the runs whose value satisfies `p`. -/
def select {α : Type} (p : α → Bool) : List (Nat × α) → List Interval
  | [] => []
  | [(lo, v)] => if p v then [⟨lo, CharSet.maxCodePoint⟩] else []
  | (lo, v) :: (next, w) :: rest =>
    let others := select p ((next, w) :: rest)
    if p v then
      match others with
      | ⟨olo, ohi⟩ :: more => if olo = next then ⟨lo, ohi⟩ :: more else ⟨lo, next - 1⟩ :: others
      | [] => [⟨lo, next - 1⟩]
    else others

/-- The set of the characters whose run satisfies `p`. -/
def setWhere {α : Type} (table : Array (Nat × α)) (p : α → Bool) : CharSet :=
  ⟨select p table.toList⟩

end Signpost.Unicode.Table
