/-!
# Request targets

The target of a request is a path with a query perhaps, or a single asterisk, or an authority alone,
or all of it behind a scheme. What follows a `#` does not count.
-/

namespace Signpost.Http

/-- A request target. -/
structure Uri where
  scheme : Option String := none
  authority : Option String := none
  /-- At least `/` where there is a scheme; empty for an authority alone. -/
  path : String
  query : Option String := none
  deriving DecidableEq, Repr, Inhabited

namespace Uri

/-- Why a text is no request target. -/
inductive Fault where
  | badCharacter
  | badAuthority
  | badFormat
  | empty
  | tooLong
  | schemeTooLong
  deriving DecidableEq, Repr, Inhabited

namespace Fault

def message : Fault → String
  | .badCharacter => "invalid uri character"
  | .badAuthority => "invalid authority"
  | .badFormat => "invalid format"
  | .empty => "empty string"
  | .tooLong => "uri too long"
  | .schemeTooLong => "scheme too long"

end Fault

/-! ## Path and query -/

/-- Whether the character may stand in the path. Some that ought to be written with a percent sign
are let through, and all that are not ASCII. -/
def isPathChar (c : Char) : Bool :=
  let n := c.toNat
  n == 0x21 || n == 0x22 || (0x24 ≤ n && n ≤ 0x3B) || n == 0x3D || (0x40 ≤ n && n ≤ 0x5F) ||
    0x61 ≤ n

/-- Whether the character may stand in the query. -/
def isQueryChar (c : Char) : Bool :=
  let n := c.toNat
  n == 0x21 || (0x24 ≤ n && n ≤ 0x3B) || n == 0x3D || 0x3F ≤ n

def pathAndQuery? (s : List Char) : Option (List Char × Option (List Char)) :=
  let s := s.takeWhile (· != '#')
  let path := s.takeWhile (· != '?')
  let query := (s.dropWhile (· != '?')).tail?
  if path.all isPathChar && (query.getD []).all isQueryChar then some (path, query) else none

/-! ## Authority -/

/-- Whether the character may stand in an authority, apart from the percent sign. -/
def isAuthorityChar (c : Char) : Bool :=
  c.isAlphanum || "!$&'()*+,-.:;=@[]_~".toList.contains c

/-- What was seen of an authority. Colons and percent signs are counted since the last `@` or
`]`. -/
structure AuthorityScan where
  colons : Nat := 0
  opened : Bool := false
  closed : Bool := false
  percent : Bool := false
  afterAt : Bool := false

namespace AuthorityScan

def step (scan : AuthorityScan) (c : Char) : Except Fault AuthorityScan :=
  let scan' := { scan with afterAt := c == '@' }
  if c = ':' then
    if scan.colons ≥ 8 then .error .badAuthority
    else .ok { scan' with colons := scan.colons + 1 }
  else if c = '[' then
    if scan.percent || scan.opened then .error .badAuthority
    else .ok { scan' with opened := true }
  else if c = ']' then
    if !scan.opened || scan.closed then .error .badAuthority
    else .ok { scan' with closed := true, colons := 0, percent := false }
  else if c = '@' then .ok { scan' with colons := 0, percent := false }
  else if c = '%' then .ok { scan' with percent := true }
  else if isAuthorityChar c then .ok scan'
  else .error .badCharacter

/-- Whether an authority may end here: brackets are in pairs, at most one colon stands before a
port, and the host is neither missing nor written with percent signs. -/
def mayEnd (scan : AuthorityScan) : Bool :=
  scan.opened == scan.closed && scan.colons ≤ 1 && !scan.afterAt && !scan.percent

end AuthorityScan

/-- The authority at the start of a text, which ends before the first `/`, `?` or `#`, and the
rest. -/
def cutAuthority (s : List Char) : Except Fault (List Char × List Char) :=
  let isEnd (c : Char) : Bool := c == '/' || c == '?' || c == '#'
  let authority := s.takeWhile (!isEnd ·)
  match authority.foldlM AuthorityScan.step {} with
  | .error fault => .error fault
  | .ok scan =>
    if scan.mayEnd then .ok (authority, s.dropWhile (!isEnd ·)) else .error .badAuthority

/-! ## Scheme -/

/-- Whether the character may stand in a scheme. -/
def isSchemeChar (c : Char) : Bool :=
  c.isAlphanum || c == '+' || c == '-' || c == '.' || c == '~'

def maxSchemeLength : Nat := 64

/-- The scheme before `://` at the start of a text, if there is one, and the rest. -/
def cutScheme (s : List Char) : Except Fault (Option (List Char) × List Char) :=
  let scheme := s.takeWhile isSchemeChar
  match s.dropWhile isSchemeChar with
  | ':' :: '/' :: '/' :: rest =>
    let lower := scheme.map Char.toLower
    if lower = "http".toList || lower = "https".toList then .ok (some lower, rest)
    else if scheme.length > maxSchemeLength then .error .schemeTooLong
    else .ok (some scheme, rest)
  | _ => .ok (none, s)

/-! ## Targets -/

/-- The greatest length of a target in bytes. -/
def maxLength : Nat := 65534

def nonempty? (s : List Char) : Option String :=
  if s.isEmpty then none else some (String.ofList s)

/-- The target without an authority and with the path and query given. -/
def ofPath (s : List Char) : Except Fault Uri :=
  match pathAndQuery? s with
  | none => .error .badCharacter
  | some (path, query) =>
    .ok { path := String.ofList path, query := query.map String.ofList }

/-- The target that is an authority or starts with a scheme. -/
def ofAuthority (s : List Char) : Except Fault Uri := do
  let (scheme, afterScheme) ← cutScheme s
  let (authority, rest) ← cutAuthority afterScheme
  match scheme with
  | none =>
    if rest.isEmpty then .ok { authority := nonempty? authority, path := "" }
    else .error .badFormat
  | some scheme =>
    if authority.isEmpty then .error .badFormat
    else
      let tail ← ofPath rest
      .ok { tail with
        scheme := some (String.ofList scheme)
        authority := nonempty? authority
        path := if tail.path.isEmpty then "/" else tail.path }

def parse (text : String) : Except Fault Uri :=
  if text.utf8ByteSize > maxLength then .error .tooLong
  else match text.toList with
    | [] => .error .empty
    | ['*'] => .ok { path := "*" }
    | [c] =>
      if c = '/' then .ok { path := "/" }
      else if c = '?' || c = '#' then .error .badCharacter
      else ofAuthority [c]
    | c :: rest => if c = '/' then ofPath (c :: rest) else ofAuthority (c :: rest)

def text (uri : Uri) : String :=
  (uri.scheme.map (· ++ "://")).getD "" ++ uri.authority.getD "" ++ uri.path ++
    (uri.query.map ("?" ++ ·)).getD ""

end Uri

end Signpost.Http
