/-!
# JSON

Values are written over several lines, each field of an object on a line of its own and indented
below its object. In texts, only quotes, backslashes and control characters are escaped.
-/

namespace Signpost.Text

/-- A value. -/
inductive Json where
  | number (n : Nat)
  | text (s : String)
  | object (fields : List (String × Json))

namespace Json

/-- The character as it is written in quotes. -/
def escape (c : Char) : List Char :=
  match c with
  | '"' => ['\\', '"']
  | '\\' => ['\\', '\\']
  | '\x08' => ['\\', 'b']
  | '\t' => ['\\', 't']
  | '\n' => ['\\', 'n']
  | '\x0c' => ['\\', 'f']
  | '\r' => ['\\', 'r']
  | c =>
    if c.toNat < 0x10 then "\\u000".toList ++ Nat.toDigits 16 c.toNat
    else if c.toNat < 0x20 then "\\u00".toList ++ Nat.toDigits 16 c.toNat
    else [c]

def quote (text : String) : String :=
  String.ofList ('"' :: text.toList.flatMap escape ++ ['"'])

def margin (depth : Nat) : String := String.ofList (List.replicate (2 * depth) ' ')

mutual

def write (depth : Nat) : Json → String
  | .number n => toString n
  | .text s => quote s
  | .object [] => "\x7b\x7d"
  | .object fields =>
    "\x7b\n" ++ String.intercalate ",\n" (writeFields (depth + 1) fields) ++ "\n" ++ margin depth ++
      "\x7d"

/-- The fields of an object, each on its line. -/
def writeFields (depth : Nat) : List (String × Json) → List String
  | [] => []
  | (name, value) :: rest =>
    (margin depth ++ quote name ++ ": " ++ write depth value) :: writeFields depth rest

end

end Json

end Signpost.Text
