import Signpost.Datum

/-!
# Tables under construction

Entries may come from many places of a document: below headers, below headers of deeper tables, and
by keys with dots. A table that was given in one way cannot be given again, and it is extended only
in the way in which it came to be.
-/

namespace Signpost.Toml

/-- How a table came to be. -/
inductive Origin where
  /-- By its own header or braces. -/
  | explicit
  /-- By the header of a table below it. -/
  | implicit
  /-- By a key with dots. -/
  | dotted
  deriving DecidableEq, Repr

/-- What a key stands for. -/
inductive Item where
  /-- A value that is complete. -/
  | value (d : Datum)
  | table (origin : Origin) (entries : List (String × Item))
  /-- The tables of a list whose elements have headers. -/
  | tables (elements : List (List (String × Item)))

/-- The entries of a table in the order of their keys' first use. -/
abbrev Entries := List (String × Item)

namespace Entries

/-- The entries with the item of one key replaced, or added at the end. -/
def update (key : String) (f : Option Item → Option Item) : Entries → Option Entries
  | [] => (f none).map fun item => [(key, item)]
  | (k, item) :: rest =>
    if k = key then (f (some item)).map fun item => (k, item) :: rest
    else (update key f rest).map ((k, item) :: ·)

/-- Applies `f` to the table below the path. Tables that are missing on the way are made, by dots if
`dotted` is set; with dots, none that is explicit is entered. -/
def descend (dotted : Bool) (f : Origin → Entries → Option Entries) :
    List String → Origin → Entries → Option Entries
  | [], origin, entries => f origin entries
  | key :: path, _, entries =>
    entries.update key fun
      | none =>
        let origin : Origin := if dotted then .dotted else .implicit
        (descend dotted f path origin []).map (.table origin)
      | some (.value _) => none
      | some (.table origin entries) =>
        if dotted && origin == .explicit then none
        else (descend dotted f path origin entries).map (.table origin)
      | some (.tables elements) =>
        match elements.reverse with
        | [] => none
        | last :: before =>
          (descend dotted f path .explicit last).map fun last =>
            .tables (before.reverse ++ [last])

/-- Adds an entry; its key must be free, and where it has dots its table must be made by dots. -/
def put (key : List String) (item : Item) (entries : Entries) : Option Entries :=
  match key.getLast? with
  | none => none
  | some name =>
    let path := key.dropLast
    let add (origin : Origin) (entries : Entries) : Option Entries :=
      if (origin == .dotted) == path.isEmpty then none
      else entries.update name fun
        | none => some item
        | some _ => none
    descend true add path .explicit entries

end Entries

/-! ## Finished tables -/

mutual

def Item.datum : Item → Datum
  | .value d => d
  | .table _ entries => .table (Item.data entries)
  | .tables elements => .list (Item.lists elements)

def Item.data : List (String × Item) → List (String × Datum)
  | [] => []
  | (key, item) :: rest => (key, item.datum) :: Item.data rest

def Item.lists : List (List (String × Item)) → List Datum
  | [] => []
  | entries :: rest => .table (Item.data entries) :: Item.lists rest

end

end Signpost.Toml
