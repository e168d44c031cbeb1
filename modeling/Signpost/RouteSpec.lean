import Signpost.Path
import Signpost.Pattern.Token
import Signpost.Text.Blank
import Signpost.Text.Split

/-!
# Route texts

A route is written as a list of methods, a blank and a pattern, or as a pattern alone, which is for
every method. Methods are separated by commas and their case does not count; the pattern is cleaned
like a path.
-/

namespace Signpost

def anyMethod : String := "*"

/-- The text with ASCII letters in upper case. -/
def upperAscii (s : List Char) : List Char := s.map Char.toUpper

/-- What a route text says. -/
structure RouteSpec where
  methods : List String
  pattern : String
  deriving DecidableEq, Repr, Inhabited

namespace RouteSpec

/-- The methods of a list separated by commas; empty places do not count. -/
def methodList (s : List Char) : List String :=
  (((Text.split ',' s).map Text.trim).filter (!·.isEmpty)).map fun m =>
    String.ofList (upperAscii m)

def parse (route : String) : RouteSpec :=
  let s := Text.trim route.toList
  match Text.cut? ' ' s with
  | none => { methods := [anyMethod], pattern := Path.clean (String.ofList s) }
  | some (methods, pattern) =>
    { methods := methodList methods
      pattern := Path.clean (String.ofList (Text.trim pattern)) }

end RouteSpec

end Signpost
