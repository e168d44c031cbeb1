import Signpost.Text.Reader
import Signpost.Unicode.Table

/-!
# Blanks, comments and texts

Lines end with a line feed, before which a carriage return may stand. A text in single quotes is
taken as it is, one in double quotes may hold escapes, and either may run over several lines between
three quotes.
-/

namespace Signpost.Toml

open Text (Reader)
open Text.Reader

/-! ## Blanks -/

/-- Whether the character is a blank within a line. -/
def isBlank (c : Char) : Bool := c == ' ' || c == '\t'

/-- Whether the character may stand in a comment. -/
def isCommentChar (c : Char) : Bool := c == '\t' || (0x20 ≤ c.toNat && c.toNat != 0x7F)

def blanks : Reader Unit := do
  let _ ← takeWhile isBlank

def newline : Reader Unit := literal ['\n'] <|> literal ['\r', '\n']

def comment : Reader Unit := do
  literal ['#']
  let _ ← takeWhile isCommentChar

/-- What may stand behind an entry on its line. -/
def lineEnd : Reader Unit := do
  blanks
  let _ ← option comment
  newline <|> atEnd

def lines : Reader Unit := do
  let blank : Reader Unit := do
    let _ ← takeWhile1 isBlank
  let _ ← many (blank <|> newline <|> (comment *> newline))

/-! ## Texts -/

/-- Whether the character stands for itself in double quotes. -/
def isBasicChar (c : Char) : Bool := isCommentChar c && c != '"' && c != '\\'

/-- Whether the character may stand in single quotes. -/
def isLiteralChar (c : Char) : Bool := isCommentChar c && c != '\''

/-- The character with the code point that is written in `n` hexadecimal digits. -/
def codePoint (n : Nat) : Reader Char := do
  let digits ← take n fun c => (Unicode.Table.hexDigit? c).isSome
  let code := Unicode.Table.hex digits
  guard code.isValidChar
  return Char.ofNat code

def escape : Reader Char := do
  literal ['\\']
  match ← char fun _ => true with
  | 'b' => return '\x08'
  | 't' => return '\t'
  | 'n' => return '\n'
  | 'f' => return '\x0c'
  | 'r' => return '\r'
  | '"' => return '"'
  | '\\' => return '\\'
  | 'u' => codePoint 4
  | 'U' => codePoint 8
  | _ => failure

/-- An escaped line end, with the blanks and line ends that follow it. -/
def escapedNewline : Reader Unit := do
  literal ['\\']
  blanks
  newline
  let blank : Reader Unit := do
    let _ ← takeWhile1 isBlank
  let _ ← many (blank <|> newline)

def basicText : Reader (List Char) := do
  literal ['"']
  let pieces ← many (takeWhile1 isBasicChar <|> (fun c => [c]) <$> escape)
  literal ['"']
  return pieces.flatten

def literalText : Reader (List Char) := do
  literal ['\'']
  let cs ← takeWhile isLiteralChar
  literal ['\'']
  return cs

def quotes (quote : Char) (lo hi : Nat) : Reader (List Char) := do
  let run ← takeWhile (· == quote)
  guard (lo ≤ run.length && run.length ≤ hi)
  return run

/-- A text between three quotes. A line end at its start does not count; up to two quotes may stand
anywhere in it, also at its end. -/
def longText (quote : Char) (piece : Reader (List Char)) : Reader (List Char) := do
  literal [quote, quote, quote]
  let _ ← option newline
  let pieces ← many (piece <|> quotes quote 1 2)
  let closing ← quotes quote 3 5
  return pieces.flatten ++ closing.drop 3

/-- A text in double quotes over several lines. -/
def longBasicText : Reader (List Char) :=
  longText '"' <|
    takeWhile1 isBasicChar <|> (escapedNewline *> pure []) <|> ((fun c => [c]) <$> escape) <|>
      (newline *> pure ['\n'])

/-- A text in single quotes over several lines. -/
def longLiteralText : Reader (List Char) :=
  longText '\'' (takeWhile1 isLiteralChar <|> (newline *> pure ['\n']))

def text : Reader String :=
  String.ofList <$> (longBasicText <|> longLiteralText <|> basicText <|> literalText)

/-! ## Keys -/

/-- Whether the character may stand in a key without quotes. -/
def isKeyChar (c : Char) : Bool := c.isAlphanum || c == '_' || c == '-'

def keyPart : Reader String := do
  blanks
  let part ← basicText <|> literalText <|> takeWhile1 isKeyChar
  blanks
  return String.ofList part

def maxKeyParts : Nat := 80

def key : Reader (List String) := do
  let parts ← sepBy1 keyPart (literal ['.'])
  guard (parts.length < maxKeyParts)
  return parts

end Signpost.Toml
