/-!
# Data

Settings are given as data of a few shapes, however they are written.
-/

namespace Signpost

/-- A piece of data. -/
inductive Datum where
  | text (s : String)
  | integer (n : Int)
  | list (items : List Datum)
  | table (entries : List (String × Datum))
  /-- A date, a time, or both. -/
  | moment
  /-- Nothing, where that is written out. -/
  | null
  /-- A value of any other shape; no setting has one. -/
  | other
  deriving Inhabited

end Signpost
