import Signpost.Regex.Parser
import Signpost.Text.Split

/-!
# The tokens of a pattern

A pattern is read from left to right into tokens: literal characters, the wildcards `*` and `**`,
and captures in braces. A capture is `name`, `name:sub` or `:sub`, where `sub` is a regular
expression; braces inside it are counted and a backslash takes the next character with it. The first
fault wins.
-/

namespace Signpost.Pattern

/-- Why the text of a pattern cannot be read. -/
inductive Malformation where
  | unmatchedBrace
  | unterminatedBrace
  | emptySubPattern (capture : List Char)
  | emptyCapture
  | invalidName (name : List Char)
  | duplicateName (name : List Char)
  deriving DecidableEq, Repr, Inhabited

namespace Malformation

def message : Malformation → String
  | .unmatchedBrace => "unmatched '\x7d'"
  | .unterminatedBrace => "unterminated '\x7b'"
  | .emptySubPattern capture =>
    "empty sub-pattern in '\x7b" ++ String.ofList capture ++ "\x7d'"
  | .emptyCapture => "empty capture '\x7b\x7d'"
  | .invalidName name => "invalid capture name '" ++ String.ofList name ++ "'"
  | .duplicateName name => "duplicate capture name '" ++ String.ofList name ++ "'"

end Malformation

/-- One token of a pattern. -/
inductive Token where
  /-- A character that stands for itself. -/
  | char (c : Char)
  /-- `*`: a text without a slash. -/
  | segment
  /-- `**`: a text without a line feed. -/
  | rest
  /-- A capture with a name; without a sub-pattern it takes what `*` takes. -/
  | named (name : List Char) (sub : Option (List Char))
  /-- A group without a name. -/
  | anonymous (sub : List Char)
  deriving DecidableEq, Repr, Inhabited

/-- Reads the body of a capture up to the brace that closes it; `depth` counts the braces opened
inside. -/
def captureBody : (depth : Nat) → List Char → Option (List Char × List Char)
  | _, [] => none
  | _, ['\\'] => none
  | depth, '\\' :: c :: rest =>
    (captureBody depth rest).map fun (body, after) => ('\\' :: c :: body, after)
  | depth, c :: rest =>
    if c = '\x7b' then
      (captureBody (depth + 1) rest).map fun (body, after) => (c :: body, after)
    else if c = '\x7d' then
      match depth with
      | 0 => some ([], rest)
      | depth + 1 => (captureBody depth rest).map fun (body, after) => (c :: body, after)
    else (captureBody depth rest).map fun (body, after) => (c :: body, after)

theorem length_captureBody {depth : Nat} {s body after : List Char}
    (h : captureBody depth s = some (body, after)) : after.length < s.length := by
  fun_induction captureBody depth s generalizing body after <;>
    grind [Option.map_eq_some_iff]

/-- Whether the text may name a capture: an ASCII letter or underscore, then letters, digits,
underscores. -/
def isName : List Char → Bool
  | [] => false
  | c :: rest => (c.isAlpha || c == '_') && rest.all fun c => c.isAlphanum || c == '_'

/-- The token of a capture with the body, where `names` have been used before. -/
def captureToken (names : List (List Char)) (body : List Char) : Except Malformation Token :=
  let checked (name : List Char) (sub : Option (List Char)) : Except Malformation Token :=
    if !isName name then .error (.invalidName name)
    else if names.contains name then .error (.duplicateName name)
    else .ok (.named name sub)
  match Text.cut? ':' body with
  | some (_, []) => .error (.emptySubPattern body)
  | some (name, sub) => if name.isEmpty then .ok (.anonymous sub) else checked name (some sub)
  | none => if body.isEmpty then .error .emptyCapture else checked body none

def Token.name? : Token → Option (List Char)
  | .named name _ => some name
  | _ => none

/-- Reads the tokens of a pattern, where `names` have been used before. -/
def tokens (names : List (List Char)) (s : List Char) : Except Malformation (List Token) :=
  match s with
  | [] => .ok []
  | '*' :: '*' :: rest => do return .rest :: (← tokens names rest)
  | '*' :: rest => do return .segment :: (← tokens names rest)
  | '\x7d' :: _ => .error .unmatchedBrace
  | '\x7b' :: s =>
    match _h : captureBody 0 s with
    | none => .error .unterminatedBrace
    | some (body, after) => do
      let token ← captureToken names body
      return token :: (← tokens (token.name?.toList ++ names) after)
  | c :: rest => do return .char c :: (← tokens names rest)
  termination_by s.length
  decreasing_by
    all_goals first
      | exact Nat.lt_succ_of_lt (length_captureBody _h)
      | (simp only [List.length_cons]; omega)

end Signpost.Pattern
