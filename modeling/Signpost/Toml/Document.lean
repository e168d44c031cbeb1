import Signpost.Toml.Scalar
import Signpost.Toml.Table

/-!
# Documents

A document is a list of lines, each empty, an entry, or the header of a table to which the entries
below it belong.
-/

namespace Signpost.Toml

open Text (Reader)
open Text.Reader

/-! ## Values -/

/-- How deep lists and tables may be nested within a value. -/
def maxDepth : Nat := 79

/-- The elements of a list, which may run over several lines and end with a comma. -/
def listOf (element : Reader Datum) : Reader Datum := do
  literal ['[']
  let items ← many do
    lines
    let item ← element
    lines
    let comma ← option (literal [','])
    if comma.isNone then
      guard ((← peek) == some ']')
    return item
  lines
  literal [']']
  return .list items

def entry (value : Reader Datum) : Reader (List String × Datum) := do
  let k ← key
  literal ['=']
  blanks
  let v ← value
  return (k, v)

/-- The entries of a table in braces, all on one line. -/
def tableOf (value : Reader Datum) : Reader Datum := do
  literal ['\x7b']
  let first ← option (entry value)
  let rest ← if first.isSome then many (blanks *> literal [','] *> entry value) else pure []
  blanks
  literal ['\x7d']
  let entries ← ((first.toList ++ rest).foldlM
    (fun entries e => Entries.put e.1 (.value e.2) entries) [] : Option Entries)
  return .table (Item.data entries)

/-- A value in which lists and tables are nested at most `depth` deep. -/
def value : (depth : Nat) → Reader Datum
  | 0 => scalar
  | depth + 1 => scalar <|> listOf (value depth) <|> tableOf (value depth)

/-! ## Building documents -/

/-- A document under construction. -/
structure Builder where
  root : Entries := []
  /-- The entries below the last header. -/
  current : Entries := []
  /-- The key of the last header; empty before the first one. -/
  path : List String := []
  /-- Whether the last header is that of an element of a list. -/
  isElement : Bool := false

namespace Builder

/-- Applies `f` to the place of a key in the document. -/
def atKey (root : Entries) (path : List String) (f : Option Item → Option Item) :
    Option Entries :=
  match path.getLast? with
  | none => none
  | some name =>
    Entries.descend false (fun _ entries => entries.update name f) path.dropLast .explicit root

/-- The entries of the document with those below the last header. -/
def finish (b : Builder) : Option Entries :=
  if b.path.isEmpty then some b.current
  else atKey b.root b.path fun
    | none => some (if b.isElement then .tables [b.current] else .table .explicit b.current)
    | some (.tables elements) =>
      if b.isElement then some (.tables (elements ++ [b.current])) else none
    | some (.table origin _) =>
      if b.isElement || origin == .explicit then none else some (.table .explicit b.current)
    | some (.value _) => none

/-- Starts an element of the list of tables at the path. -/
def startElement (b : Builder) (path : List String) : Option Builder := do
  let root ← b.finish
  let root ← atKey root path fun
    | none => some (.tables [])
    | some (.tables elements) => some (.tables elements)
    | some _ => none
  return { root, path, isElement := true }

def item? : List String → Entries → Option Item
  | [], _ => none
  | [name], entries => entries.lookup name
  | name :: path, entries =>
    match entries.lookup name with
    | some (.table _ entries) => item? path entries
    | some (.tables elements) => (elements.getLast?).bind (item? path)
    | _ => none

/-- Starts the table at the path. What headers of deeper tables put into it stays there. -/
def startTable (b : Builder) (path : List String) : Option Builder := do
  let root ← b.finish
  let root ← Entries.descend false (fun _ entries => some entries) path.dropLast .explicit root
  match item? path root with
  | none => return { root, path }
  | some (.table .implicit entries) => return { root, path, current := entries }
  | some _ => none

def put (b : Builder) (key : List String) (d : Datum) : Option Builder :=
  (b.current.put key (.value d)).map fun current => { b with current }

end Builder

/-! ## Lines -/

/-- A line of a document. -/
inductive Line where
  | empty
  | entry (key : List String) (d : Datum)
  | table (path : List String)
  | element (path : List String)

def line : Reader Line := do
  blanks
  (newline *> pure .empty) <|> (comment *> lineEnd *> pure .empty) <|>
    (do
      literal ['[', '[']
      let path ← key
      literal [']', ']']
      lineEnd
      return .element path) <|>
    (do
      literal ['[']
      let path ← key
      literal [']']
      lineEnd
      return .table path) <|>
    (do
      let (k, d) ← Toml.entry (value maxDepth)
      lineEnd
      return .entry k d)

namespace Builder

def addLine (b : Builder) : Line → Option Builder
  | .empty => some b
  | .entry key d => b.put key d
  | .table path => b.startTable path
  | .element path => b.startElement path

end Builder

/-- Reads a document. A byte order mark at its start does not count. -/
def parse (text : String) : Option Datum := do
  let s := text.toList
  let s := if s.head? = some '\ufeff' then s.tail else s
  let (lines, rest) := manyFrom line s
  if !(rest.all isBlank) then none
  let b ← lines.foldlM Builder.addLine {}
  let entries ← b.finish
  return .table (Item.data entries)

end Signpost.Toml
