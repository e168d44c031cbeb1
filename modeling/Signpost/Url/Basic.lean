import Signpost.Url.Host
import Signpost.Url.Path

/-!
# URLs

An absolute URL is read into its parts and written again in its one normal form. Some schemes are
special: they have a host, their path starts with a slash, and a backslash is a slash in them.
-/

namespace Signpost

/-- An absolute URL. -/
structure Url where
  scheme : String
  /-- The user and the password, as they are written before the host. -/
  userinfo : String := ""
  /-- The host as it is written, if there are slashes before its place. -/
  host : Option String := none
  port : Option Nat := none
  path : String
  query : Option String := none
  fragment : Option String := none
  deriving DecidableEq, Repr, Inhabited

namespace Url

/-- The URL as it is written. A path that starts with two slashes is told from a host by a dot. -/
def text (url : Url) : String :=
  let authority := match url.host with
    | none => if url.path.startsWith "//" then "/." else ""
    | some host =>
      "//" ++ (if url.userinfo.isEmpty then "" else url.userinfo ++ "@") ++ host ++
        (url.port.map fun p => ":" ++ toString p).getD ""
  url.scheme ++ ":" ++ authority ++ url.path ++ (url.query.map ("?" ++ ·)).getD "" ++
    (url.fragment.map ("#" ++ ·)).getD ""

/-! ## Schemes -/

/-- The port of a special scheme other than `file`. -/
def defaultPort? (scheme : String) : Option Nat :=
  [("http", 80), ("https", 443), ("ws", 80), ("wss", 443), ("ftp", 21)].lookup scheme

def isSpecial (scheme : String) : Bool := scheme == "file" || (defaultPort? scheme).isSome

/-- The scheme in lower case and what follows its colon. -/
def cutScheme? (s : List Char) : Option (String × List Char) :=
  match s with
  | [] => none
  | c :: _ =>
    if c.isAlpha then
      let isSchemeChar (c : Char) : Bool := c.isAlphanum || c == '+' || c == '-' || c == '.'
      match s.dropWhile isSchemeChar with
      | ':' :: rest => some (String.ofList ((s.takeWhile isSchemeChar).map Char.toLower), rest)
      | _ => none
    else none

/-! ## Parts -/

/-- Whether the character ends the part before the path. -/
def endsAuthority (special : Bool) (c : Char) : Bool :=
  c == '/' || c == '?' || c == '#' || (special && c == '\\')

/-- The user and the password as they are written before the host. An empty password is not
written. -/
def userinfoText (s : List Char) : String :=
  let encode (s : List Char) : String := String.ofList (Percent.encode .userinfo s)
  match Text.cut? ':' s with
  | none => encode s
  | some (user, []) => encode user
  | some (user, password) => encode user ++ ":" ++ encode password

/-- The part of a text before the last `@`, if there is one, and the part after it. -/
def cutUserinfo (s : List Char) : Option (List Char) × List Char :=
  match Text.cut? '@' s.reverse with
  | none => (none, s)
  | some (after, before) => (some before.reverse, after.reverse)

/-- The host at the start of a text and the rest. It ends before the first colon that is not in
brackets. -/
def cutHost (inBrackets : Bool) : List Char → List Char × List Char
  | [] => ([], [])
  | c :: rest =>
    if c = ':' ∧ !inBrackets then ([], c :: rest)
    else
      let inBrackets := if c = '[' then true else if c = ']' then false else inBrackets
      let (host, rest) := cutHost inBrackets rest
      (c :: host, rest)

/-- Reads a port and what follows it. The port of the scheme is not kept. -/
def cutPort (scheme : String) (s : List Char) : Except Fault (Option Nat × List Char) :=
  let ds := s.takeWhile Char.isDigit
  let rest := s.dropWhile Char.isDigit
  let port := Number.digitsValue ds
  let ends := match rest with
    | [] => true
    | c :: _ => endsAuthority true c
  if port > 65535 || !ends then .error .badPort
  else if ds.isEmpty || defaultPort? scheme = some port then .ok (none, rest)
  else .ok (some port, rest)

/-- The URL with the query and the fragment at the start of the rest of a text. -/
def withQuery (url : Url) (rest : List Char) : Url :=
  let part : Percent.Part := if isSpecial url.scheme then .specialQuery else .query
  let write (part : Percent.Part) (s : List Char) : String := String.ofList (Percent.encode part s)
  let fragment (s : List Char) : Option String := s.tail?.map (write .fragment)
  match rest with
  | '?' :: query =>
    { url with
      query := some (write part (query.takeWhile (· != '#')))
      fragment := fragment (query.dropWhile (· != '#')) }
  | rest => { url with fragment := fragment rest }

/-- The text before the first `?` or `#` and the rest. -/
def cutPath (s : List Char) : List Char × List Char :=
  let inPath (c : Char) : Bool := c != '?' && c != '#'
  (s.takeWhile inPath, s.dropWhile inPath)

/-- The text without the slash at its start; in a special URL a backslash will do. -/
def dropSlash (special : Bool) : List Char → List Char
  | '/' :: rest => rest
  | '\\' :: rest => if special then rest else '\\' :: rest
  | s => s

def pathText (segments : List (List Char)) : String :=
  String.ofList ('/' :: ['/'].intercalate segments)

/-! ## URLs of each kind -/

/-- Reads what follows the slashes before a host. -/
def ofAuthority (scheme : String) (s : List Char) : Except Fault Url := do
  let special := isSpecial scheme
  let authority := s.takeWhile (!endsAuthority special ·)
  let tail := s.dropWhile (!endsAuthority special ·)
  let (userinfo, place) := cutUserinfo authority
  if userinfo = some [] ∧ place.isEmpty ∧ !tail.isEmpty then throw .emptyHost
  let userinfo := userinfoText (userinfo.getD [])
  let (host, afterHost) := cutHost false place
  if special ∧ host.isEmpty then throw .emptyHost
  let host ← if special then Host.ofSpecial host else Host.ofOpaque host
  if host = .name "" ∧ !afterHost.isEmpty then throw .emptyHost
  let (port, rest) ← match afterHost with
    | [] => pure (none, tail)
    | _ :: port => cutPort scheme (port ++ tail)
  if host = .name "" ∧ !userinfo.isEmpty then throw .emptyHost
  let (path, rest) := cutPath rest
  let path :=
    if special || !path.isEmpty then
      pathText (segments special false (dropSlash special path))
    else ""
  return withQuery { scheme, userinfo, host := some host.text, port, path } rest

/-- The path of a file with the segments; slashes at its start count as one. -/
def filePathText (segments : List (List Char)) : String :=
  pathText [(['/'].intercalate segments).dropWhile (· = '/')]

/-- The URL of a file on the host; a drive is on no host. -/
def ofFilePath (host : String) (s : List Char) : Url :=
  let (path, rest) := cutPath s
  let segments := segments true true (dropSlash true path)
  let host := if (segments.head?.map isDrive).getD false then "" else host
  withQuery { scheme := "file", host := some host, path := filePathText segments } rest

def ofFile (s : List Char) : Except Fault Url :=
  let isSlash (c : Char) : Bool := c == '/' || c == '\\'
  match s with
  | a :: b :: rest =>
    if isSlash a && isSlash b then
      let host := rest.takeWhile (!endsAuthority true ·)
      if isDrive host then .ok (ofFilePath "" rest)
      else
        let tail := rest.dropWhile (!endsAuthority true ·)
        if host.isEmpty then .ok (ofFilePath "" tail)
        else
          (Host.ofSpecial host).map fun host =>
            ofFilePath (if host = .name "localhost" then "" else host.text) tail
    else .ok (ofFilePath "" s)
  | s => .ok (ofFilePath "" s)

/-- Reads what follows the colon of a scheme that gives it no meaning. -/
def ofOther (scheme : String) (s : List Char) : Except Fault Url :=
  match s with
  | '/' :: '/' :: rest => ofAuthority scheme rest
  | '/' :: rest =>
    let (path, rest) := cutPath rest
    .ok (withQuery { scheme, path := pathText (segments false false path) } rest)
  | s =>
    let (path, rest) := cutPath s
    .ok (withQuery { scheme, path := String.ofList (Percent.encode .opaquePath path) } rest)

/-- Whether the character is a control or a blank. -/
def isPadding (c : Char) : Bool := c.toNat ≤ 0x20

/-- The text without padding at its ends and without tabs and line ends. -/
def strip (s : List Char) : List Char :=
  let s := ((s.dropWhile isPadding).reverse.dropWhile isPadding).reverse
  s.filter fun c => c != '\t' && c != '\n' && c != '\r'

def parse (text : String) : Except Fault Url :=
  match cutScheme? (strip text.toList) with
  | none => .error .noScheme
  | some (scheme, rest) =>
    if scheme = "file" then ofFile rest
    else if isSpecial scheme then
      ofAuthority scheme (rest.dropWhile fun c => c == '/' || c == '\\')
    else ofOther scheme rest

end Url

end Signpost
