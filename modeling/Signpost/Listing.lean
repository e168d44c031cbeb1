import Signpost.Dispatch
import Signpost.Text.Quoted

/-!
# Listings

Routers, contexts and attributes are listed for people to read, as records with named fields. A
router can also be listed over several lines, each of its own routes on one of them.
-/

namespace Signpost

open Text.Quoted (quote)

namespace Listing

/-- The record with the fields on one line; it has at least one field. -/
def record (name : String) (fields : List (String × String)) : String :=
  name ++ " \x7b " ++ String.intercalate ", " (fields.map fun f => f.1 ++ ": " ++ f.2) ++ " \x7d"

def list (items : List String) : String := "[" ++ String.intercalate ", " items ++ "]"

/-- The lines of a text, each with its end; four blanks before every one. -/
def indent (text : String) : String :=
  String.ofList (go true text.toList)
where
  /-- Writes four blanks before the next character if it starts a line. -/
  go : Bool → List Char → List Char
    | _, [] => []
    | true, c :: rest => [' ', ' ', ' ', ' '] ++ c :: go (c == '\n') rest
    | false, c :: rest => c :: go (c == '\n') rest

/-- The record with each field on lines of its own. -/
def recordLines (name : String) (fields : List (String × String)) : String :=
  name ++ " \x7b\n" ++
    indent (String.join (fields.map fun f => f.1 ++ ": " ++ f.2 ++ ",\n")) ++ "\x7d"

/-- The list with each item on a line of its own. -/
def listLines (items : List String) : String :=
  if items.isEmpty then "[]" else "[\n" ++ indent (String.join (items.map (· ++ ",\n"))) ++ "]"

end Listing

open Listing

variable {ν : Type}

/-! ## Routers -/

namespace Guard

def listing (g : Guard ν) : String := quote ((g.pattern.map Pattern.text).getD "*")

end Guard

namespace Route

def pageField (pattern : Pattern) (handlers : Dict (Callback ν .handler)) : String × String :=
  ("route", String.intercalate "," (handlers.toList.map (·.1)) ++ " " ++ pattern.text)

/-- The field for a mount whose routes have the fields given. -/
def mountField (pattern : Pattern) (filters : List (Guard ν)) (routes : List (String × String)) :
    String × String :=
  ("mount", pattern.text ++ " " ++
    record "Router" (("filters", list (filters.map Guard.listing)) :: routes))

mutual

def field : Route ν → String × String
  | .page pattern handlers => pageField pattern handlers
  | .mount pattern filters routes => mountField pattern filters (fields routes)

def fields : List (Route ν) → List (String × String)
  | [] => []
  | route :: rest => route.field :: fields rest

end

end Route

namespace Router

def listing (r : Router ν) : String :=
  record "Router" (("filters", list (r.filters.map Guard.listing)) :: Route.fields r.routes)

/-- The listing of a router over several lines. -/
def listingLines (r : Router ν) : String :=
  recordLines "Router"
    (("filters", listLines (r.filters.map Guard.listing)) :: Route.fields r.routes)

end Router

/-! ## Failures -/

namespace Http.Uri.Fault

def name : Fault → String
  | .badCharacter => "InvalidUriChar"
  | .badAuthority => "InvalidAuthority"
  | .badFormat => "InvalidFormat"
  | .empty => "Empty"
  | .tooLong => "TooLong"
  | .schemeTooLong => "SchemeTooLong"

end Http.Uri.Fault

namespace Http.Request.Fault

def listing : Fault → String
  | .method => "http::Error(InvalidMethod)"
  | .uri cause => "http::Error(InvalidUri(" ++ cause.name ++ "))"
  | .headerName => "http::Error(InvalidHeaderName)"
  | .headerValue => "http::Error(InvalidHeaderValue)"

end Http.Request.Fault

namespace Url.Fault

def name : Fault → String
  | .emptyHost => "EmptyHost"
  | .badName => "IdnaError"
  | .badPort => "InvalidPort"
  | .badIpv4 => "InvalidIpv4Address"
  | .badIpv6 => "InvalidIpv6Address"
  | .badHostCharacter => "InvalidDomainCharacter"
  | .noScheme => "RelativeUrlWithoutBase"

end Url.Fault

namespace Failure

def listing : Failure → String
  | .multipleNext => "MultipleNext"
  | .methodNotAllowed => "MethodNotAllowed"
  | .notFound => "NotFound"
  | .includeUnavailable => "IncludeUnavailable"
  | .includeTooDeep => "IncludeTooDeep(" ++ toString maxIncludeDepth ++ ")"
  | .request cause => cause.listing
  | .headerValue => "InvalidHeaderValue"
  | .url cause => cause.name
  | .value cause => record "ValueError" [("key", quote cause.key), ("value", quote cause.value)]
  | .plain reason => quote reason

end Failure

/-! ## Contexts and attributes -/

namespace Vars

def listing (vars : Vars) : String :=
  "PathVars(\x7b" ++
    String.intercalate ", " (vars.toList.map fun e => quote e.1 ++ ": " ++ quote e.2) ++ "\x7d)"

end Vars

namespace Context

def listing (c : Context) : String :=
  let failure := (c.failure.map fun f => "Some(" ++ f.listing ++ ")").getD "None"
  "Context \x7b " ++
    String.intercalate ", "
      [("method: " ++ c.request.method.name), ("uri: " ++ c.request.uri.text),
        ("vars: " ++ Vars.listing c.vars), ("base_path: " ++ quote c.basePath),
        ("err: " ++ failure), ("include_depth: " ++ toString c.depth), ".."] ++ " \x7d"

end Context

namespace Attributes

/-- The listing of attributes, which does not tell the values. -/
def listing (_ : Attributes) : String := "AppAttrs \x7b .. \x7d"

end Attributes

end Signpost
