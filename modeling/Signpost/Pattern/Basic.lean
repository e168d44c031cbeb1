import Signpost.Path
import Signpost.Pattern.Token
import Signpost.Regex.Captures
import Signpost.Vars

/-!
# Patterns

A pattern is compiled for one of two modes. In exact mode it matches whole paths, and slashes at the
end of a path do not count. In mount mode it matches the beginning of a path up to the end or to a
slash, and what follows is the suffix.
-/

namespace Signpost

namespace Pattern

/-- What a pattern is matched against. -/
inductive Mode where
  /-- The whole path. -/
  | exact
  /-- The beginning of the path. -/
  | mount
  deriving DecidableEq, Repr, Inhabited

/-- Why a pattern is refused. -/
inductive Fault where
  | malformed (pattern : String) (cause : Malformation)
  | invalidRegex (pattern : String) (cause : Regex.Fault)
  deriving DecidableEq, Repr, Inhabited

namespace Fault

def message : Fault → String
  | .malformed pattern cause => "malformed pattern '" ++ pattern ++ "': " ++ cause.message
  | .invalidRegex pattern cause => "invalid regex in pattern '" ++ pattern ++ "': " ++ cause.message

end Fault

/-! ## From text to regular expression -/

def dropSlashes (s : List Char) : List Char :=
  (s.reverse.dropWhile (· = '/')).reverse

/-- The text with a slash at its start and none at its end. What is left of an exact pattern is at
least the root. -/
def normalize (mode : Mode) (text : List Char) : List Char :=
  let rooted := if text.head? = some '/' then text else '/' :: text
  let body := dropSlashes rooted
  if body.isEmpty ∧ mode = .exact then ['/'] else body

def segmentSource : List Char := "[^/]+".toList

def restSource : List Char := ".+".toList

namespace Token

/-- The regular expression that the token stands for. -/
def source : Token → List Char
  | .char c => Regex.escape [c]
  | .segment => segmentSource
  | .rest => restSource
  | .named name sub => "(?P<".toList ++ name ++ ['>'] ++ sub.getD segmentSource ++ [')']
  | .anonymous sub => "(?:".toList ++ sub ++ [')']

end Token

namespace Mode

/-- What follows the tokens in the regular expression of a pattern. -/
def tail : Mode → List Char
  | .exact => "/*$".toList
  | .mount => "(|/.*)$".toList

end Mode

def source (mode : Mode) (tokens : List Token) : List Char :=
  '^' :: tokens.flatMap Token.source ++ mode.tail

end Pattern

/-- A compiled pattern. -/
structure Pattern where
  text : String
  mode : Pattern.Mode
  regex : Regex

namespace Pattern

def compile (mode : Mode) (text : String) : Except Fault Pattern :=
  match tokens [] (normalize mode text.toList) with
  | .error cause => .error (.malformed text cause)
  | .ok ts =>
    match Regex.compile (String.ofList (source mode ts)) with
    | .error cause => .error (.invalidRegex text cause)
    | .ok regex => .ok { text, mode, regex }

/-- The names of the captures, in the order in which they open. -/
def names (p : Pattern) : List String :=
  p.regex.namedGroups.map (·.1)

/-! ## Matching -/

/-- The variables with the captures of a match written over them. A capture that took no part is
empty. -/
def capture (p : Pattern) (c : Regex.Captures) (vars : Vars) : Vars :=
  p.regex.namedGroups.foldl (fun vars (name, i) => vars.insert name ((c.group? i).getD "")) vars

def isMatch (p : Pattern) (path : String) : Bool :=
  p.regex.isMatch path

def matchVars? (p : Pattern) (path : String) (vars : Vars) : Option Vars :=
  (p.regex.captures? path).map fun c => p.capture c vars

/-- The part of the path behind a mount, cleaned, and the variables after the match. -/
def matchPrefix? (p : Pattern) (path : String) (vars : Vars) : Option (String × Vars) :=
  match p.mode with
  | .exact => none
  | .mount =>
    (p.regex.captures? path).map fun c =>
      (Path.clean ((c.group? p.regex.groupNames.length).getD ""), p.capture c vars)

end Pattern

end Signpost
