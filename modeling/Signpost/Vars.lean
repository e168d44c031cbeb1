import Signpost.Dict

/-!
# Path variables

The variables of a request are the texts that its path gave to the names of captures.
-/

namespace Signpost

abbrev Vars := Dict String

namespace Vars

/-- The value of the variable, or the empty text where there is none. -/
def getOrEmpty (vars : Vars) (name : String) : String := (vars.get? name).getD ""

end Vars

end Signpost
