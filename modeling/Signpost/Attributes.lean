/-!
# Attributes

Attributes are values that callbacks leave for one another, at most one of each type.
-/

namespace Signpost

/-- The type of an attribute. -/
inductive Slot where
  | text
  | integer
  | truth
  deriving DecidableEq, Repr, Inhabited

abbrev Slot.Value : Slot → Type
  | .text => String
  | .integer => Int
  | .truth => Bool

/-- At most one value of each type. -/
structure Attributes where
  text : Option String := none
  integer : Option Int := none
  truth : Option Bool := none
  deriving DecidableEq, Repr, Inhabited

namespace Attributes

def get? (a : Attributes) : (slot : Slot) → Option slot.Value
  | .text => a.text
  | .integer => a.integer
  | .truth => a.truth

/-- The attributes with the value of one type replaced. -/
def set (a : Attributes) : (slot : Slot) → Option slot.Value → Attributes
  | .text, value => { a with text := value }
  | .integer, value => { a with integer := value }
  | .truth, value => { a with truth := value }

theorem get?_set_self (a : Attributes) (slot : Slot) (value : Option slot.Value) :
    (a.set slot value).get? slot = value := by
  cases slot <;> rfl

theorem get?_set_of_ne (a : Attributes) {slot other : Slot} (value : Option slot.Value)
    (h : other ≠ slot) : (a.set slot value).get? other = a.get? other := by
  cases slot <;> cases other <;> first | rfl | exact absurd rfl h

end Attributes

end Signpost
