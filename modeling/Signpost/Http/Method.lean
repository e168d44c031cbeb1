/-!
# Methods

A method is a token: one or more ASCII letters, digits and signs out of a small set. Case counts, so
`get` and `GET` are two methods.
-/

namespace Signpost

namespace Http

/-- Whether the character may stand in a token. -/
def isTokenChar (c : Char) : Bool :=
  c.isAlphanum || "!#$%&'*+-.^_`|~".toList.contains c

def isToken (s : List Char) : Bool := !s.isEmpty && s.all isTokenChar

/-- A request method. -/
structure Method where
  name : String
  isToken : Http.isToken name.toList = true
  deriving DecidableEq

namespace Method

/-- The method with the name, if the name is a token. -/
def ofName? (name : String) : Option Method :=
  if h : Http.isToken name.toList = true then some ⟨name, h⟩ else none

def get : Method := ⟨"GET", by decide⟩

/-- The method that asks for a page without its body. -/
def head : Method := ⟨"HEAD", by decide⟩

instance : Inhabited Method := ⟨get⟩
instance : Repr Method := ⟨fun m n => reprPrec m.name n⟩

end Method

end Http

end Signpost
