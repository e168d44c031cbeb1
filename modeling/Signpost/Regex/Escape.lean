import Signpost.Regex.Ast
import Signpost.Regex.Fault
import Signpost.Text.Blank
import Signpost.Unicode.Table

/-!
# Escapes

A backslash takes away or gives a character its meaning. With the flag `x` on, blanks and comments
between the signs of an expression are skipped; here they are passed over wherever they may stand.
-/

namespace Signpost.Regex

open Signpost.Text (isBlank)

/-- The characters that mean something on their own and stand for themselves after a backslash. -/
def isMeta (c : Char) : Bool :=
  "\\.+*?()|[]\x7b\x7d^$#&-~".toList.contains c

/-- The text in which every character of `text` stands for itself. -/
def escape (text : List Char) : List Char :=
  text.flatMap fun c => if isMeta c then ['\\', c] else [c]

namespace Parser

/-! ## Moving forward -/

/-- Drops blanks, and comments from `#` to the end of the line. -/
def dropSpace (inComment : Bool) : List Char → List Char
  | [] => []
  | c :: rest =>
    if inComment then dropSpace (c != '\n') rest
    else if isBlank c then dropSpace false rest
    else if c = '#' then dropSpace true rest
    else c :: rest

/-- Drops blanks and comments where the mode asks for it. -/
def skip (spaced : Bool) (s : List Char) : List Char :=
  if spaced then dropSpace false s else s

/-- Leaves the first character, and the blanks and comments after it where the mode asks for it. -/
def advance (spaced : Bool) (s : List Char) : List Char :=
  skip spaced s.tail

/-- The next character that is neither a blank nor the sign of a comment. -/
def peekPast (inComment : Bool) : List Char → Option Char
  | [] => none
  | c :: rest =>
    if isBlank c then peekPast inComment rest
    else if !inComment && c = '#' then peekPast true rest
    else some c

/-- The character that follows the first one; with blanks skipped, the next that is none. -/
def peek (spaced : Bool) (s : List Char) : Option Char :=
  if spaced then (peekPast false s.tail).or s.tail.head? else s.tail.head?

/-! ## Escapes -/

/-- What one escape stands for. -/
inductive Piece where
  | literal (l : Literal)
  | anchor (a : Anchor)
  | letter (negated : Bool) (kind : LetterClass)
  | property (negated : Bool) (query : PropertyQuery)
  deriving Repr, Inhabited

namespace Piece

/-- The expression that the piece is outside a class. -/
def toAst : Piece → Ast
  | .literal l => .literal l
  | .anchor a => .anchor a
  | .letter negated kind => .letter negated kind
  | .property negated query => .property negated query

/-- The member of a class that the piece is; assertions are none. -/
def toClassItem : Piece → Except Fault ClassSet
  | .literal l => .ok (.literal l)
  | .letter negated kind => .ok (.letter negated kind)
  | .property negated query => .ok (.property negated query)
  | .anchor _ => .error .invalidClassItem

/-- The end of a range that the piece is; only literals are. -/
def toLiteral : Piece → Except Fault Literal
  | .literal l => .ok l
  | _ => .error .invalidClassRange

end Piece

/-- The character with the code point, if there is one. -/
def charOf? (n : Nat) : Option Char :=
  if n.isValidChar then some (Char.ofNat n) else none

/-- Reads exactly `count` hexadecimal digits. -/
def hexDigits (spaced : Bool) : (count value : Nat) → List Char → Except Fault (Nat × List Char)
  | 0, value, s => .ok (value, s)
  | _ + 1, _, [] => .error .unexpectedEnd
  | count + 1, value, c :: rest =>
    match Unicode.Table.hexDigit? c with
    | some d => hexDigits spaced count (value * 16 + d) (skip spaced rest)
    | none => .error .invalidHexDigit

/-- Reads hexadecimal digits up to a closing brace; `fuel` is at least the length of the text. -/
def hexBraced (spaced : Bool) :
    (fuel : Nat) → (digits : List Nat) → List Char → Except Fault (List Nat × List Char)
  | 0, _, _ => .error .unexpectedEnd
  | _ + 1, _, [] => .error .unexpectedEnd
  | fuel + 1, digits, c :: rest =>
    if c = '\x7d' then .ok (digits, skip spaced rest)
    else match Unicode.Table.hexDigit? c with
      | some d => hexBraced spaced fuel (digits ++ [d]) (skip spaced rest)
      | none => .error .invalidHexDigit

/-- Reads the code point after `\x`, `\u` or `\U`: so many digits, or any number in braces. -/
def hexEscape (spaced : Bool) (count : Nat) (s : List Char) :
    Except Fault (Literal × List Char) := do
  match s with
  | [] => .error .unexpectedEnd
  | '\x7b' :: _ =>
    let (digits, rest) ← hexBraced spaced (s.length + 1) [] (advance spaced s)
    if digits.isEmpty then .error .emptyHex
    match charOf? (digits.foldl (fun n d => n * 16 + d) 0) with
    | some c => .ok (⟨c, false⟩, rest)
    | none => .error .invalidCodePoint
  | _ =>
    let (n, rest) ← hexDigits spaced count 0 s
    match charOf? n with
    | some c => .ok (⟨c, count == 2⟩, rest)
    | none => .error .invalidCodePoint

/-- Reads a property name up to its closing brace; `fuel` is at least the length of the text. -/
def propertyName (spaced : Bool) :
    (fuel : Nat) → (name : List Char) → List Char → Except Fault (List Char × List Char)
  | 0, _, _ => .error .unexpectedEnd
  | _ + 1, _, [] => .error .unexpectedEnd
  | fuel + 1, name, c :: rest =>
    if c = '\x7d' then .ok (name, rest)
    else propertyName spaced fuel (name ++ [c]) (skip spaced rest)

/-- The text before and after the first place where `mark` stands. -/
def cutAt (mark : List Char) : List Char → Option (List Char × List Char)
  | [] => if mark.isEmpty then some ([], []) else none
  | c :: rest =>
    if mark.isPrefixOf (c :: rest) then some ([], (c :: rest).drop mark.length)
    else (cutAt mark rest).map fun (before, after) => (c :: before, after)

/-- The query that a name in braces makes, and whether its sign turns it around. -/
def propertyQuery (name : List Char) : Bool × PropertyQuery :=
  let valued (negated : Bool) (p : List Char × List Char) : Bool × PropertyQuery :=
    (negated, .valued (String.ofList p.1) (String.ofList p.2))
  match cutAt ['!', '='] name with
  | some p => valued true p
  | none =>
    match cutAt [':'] name with
    | some p => valued false p
    | none =>
      match cutAt ['='] name with
      | some p => valued false p
      | none => (false, .named (String.ofList name))

/-- Reads the property class after `\p` or `\P`. -/
def propertyEscape (spaced negated : Bool) (s : List Char) :
    Except Fault (Piece × List Char) := do
  match s with
  | [] => .error .unexpectedEnd
  | '\x7b' :: _ =>
    let (name, rest) ← propertyName spaced (s.length + 1) [] (advance spaced s)
    let (turned, query) := propertyQuery name
    .ok (.property (negated != turned) query, rest)
  | '\\' :: _ => .error .invalidPropertyName
  | c :: rest => .ok (.property negated (.named (String.singleton c)), skip spaced rest)

/-- Reads the letters of a word boundary name; `fuel` is at least the length of the text. -/
def boundaryName (spaced : Bool) :
    (fuel : Nat) → (name : List Char) → List Char → List Char × List Char
  | 0, name, s => (name, s)
  | _ + 1, name, [] => (name, [])
  | fuel + 1, name, c :: rest =>
    if c.isAlpha || c = '-' then boundaryName spaced fuel (name ++ [c]) (skip spaced rest)
    else (name, c :: rest)

/-- Reads what may follow `\b`: the name of a special boundary in braces. A brace that starts a
count is left alone. -/
def boundaryEscape (spaced : Bool) (s : List Char) : Except Fault (Anchor × List Char) := do
  match s with
  | '\x7b' :: _ =>
    match advance spaced s with
    | [] => .error .unexpectedEnd
    | c :: rest =>
      if c.isAlpha || c = '-' then
        match boundaryName spaced (rest.length + 1) [] (c :: rest) with
        | (name, '\x7d' :: after) =>
          match String.ofList name with
          | "start" => .ok (.wordStart, after)
          | "end" => .ok (.wordEnd, after)
          | "start-half" => .ok (.wordStartHalf, after)
          | "end-half" => .ok (.wordEndHalf, after)
          | _ => .error .unknownWordBoundary
        | _ => .error .unknownWordBoundary
      else .ok (.wordBoundary, s)
  | _ => .ok (.wordBoundary, s)

/-- Whether a backslash before the character makes it stand for itself. -/
def isEscapable (c : Char) : Bool :=
  isMeta c || (c.toNat < 128 && !c.isAlphanum && c != '<' && c != '>')

def escaped (spaced : Bool) (s : List Char) : Except Fault (Piece × List Char) := do
  let literal (c : Char) (rest : List Char) : Except Fault (Piece × List Char) :=
    .ok (.literal ⟨c, false⟩, rest)
  let hex (count : Nat) (rest : List Char) : Except Fault (Piece × List Char) := do
    let (l, after) ← hexEscape spaced count (skip spaced rest)
    .ok (.literal l, after)
  match s with
  | [] => .error .unexpectedEnd
  | c :: rest =>
    match c with
    | 'x' => hex 2 rest
    | 'u' => hex 4 rest
    | 'U' => hex 8 rest
    | 'p' => propertyEscape spaced false (skip spaced rest)
    | 'P' => propertyEscape spaced true (skip spaced rest)
    | 'd' => .ok (.letter false .digit, rest)
    | 'D' => .ok (.letter true .digit, rest)
    | 's' => .ok (.letter false .space, rest)
    | 'S' => .ok (.letter true .space, rest)
    | 'w' => .ok (.letter false .word, rest)
    | 'W' => .ok (.letter true .word, rest)
    | 'a' => literal '\x07' rest
    | 'f' => literal '\x0c' rest
    | 't' => literal '\t' rest
    | 'n' => literal '\n' rest
    | 'r' => literal '\r' rest
    | 'v' => literal '\x0b' rest
    | 'A' => .ok (.anchor .textStart, rest)
    | 'z' => .ok (.anchor .textEnd, rest)
    | 'b' => do
      let (a, after) ← boundaryEscape spaced rest
      .ok (.anchor a, after)
    | 'B' => .ok (.anchor .notWordBoundary, rest)
    | '<' => .ok (.anchor .wordStart, rest)
    | '>' => .ok (.anchor .wordEnd, rest)
    | c =>
      if c.isDigit then .error .backReference
      else if isEscapable c then literal c rest
      else .error .unknownEscape

end Parser

end Signpost.Regex
