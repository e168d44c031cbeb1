import Signpost.Unicode.Category
import Signpost.Unicode.Property

/-!
# Quoted texts

A text is quoted so that every character can be seen: quotes, backslashes and what has no shape of
its own are written as escapes.
-/

namespace Signpost.Text.Quoted

open Unicode (Category)

/-- The categories of characters that cannot be seen. -/
def hidden : List Category := Category.separators ++ Category.others

/-- Whether the character has a shape of its own. -/
def isVisible (c : Char) : Bool :=
  c == ' ' || (!hidden.contains (Category.of c) && !Unicode.Property.graphemeExtend.holds c)

/-- The character as it is written in quotes. -/
def escape (c : Char) : List Char :=
  match c with
  | '\x00' => ['\\', '0']
  | '\t' => ['\\', 't']
  | '\r' => ['\\', 'r']
  | '\n' => ['\\', 'n']
  | '\\' => ['\\', '\\']
  | '"' => ['\\', '"']
  | c =>
    if isVisible c then [c]
    else ['\\', 'u', '\x7b'] ++ Nat.toDigits 16 c.toNat ++ ['\x7d']

def quote (text : String) : String :=
  String.ofList ('"' :: text.toList.flatMap escape ++ ['"'])

end Signpost.Text.Quoted
