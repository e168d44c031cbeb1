import Signpost.Address.Socket
import Signpost.Config.Basic
import Signpost.Http.Header
import Signpost.Http.Status
import Signpost.Pattern.Basic
import Signpost.RouteSpec

/-!
# Problems of configurations

Before anything is registered a configuration is checked as a whole, and every problem is listed
with the field that has it.
-/

namespace Signpost

open Http (HeaderName HeaderValue Status)

namespace Config

/-- What is wrong with a field. -/
inductive Flaw where
  /-- The text is no socket address. -/
  | notAnAddress (text : String)
  /-- The path does not start at the root. -/
  | notRooted
  /-- The number is zero. -/
  | zero
  | badPattern (cause : Pattern.Fault)
  /-- The text is no name of a header. -/
  | badHeaderName (text : String)
  /-- The text is no value of a header. -/
  | badHeaderValue
  /-- The number is no status code. -/
  | badStatus (code : Nat)
  deriving DecidableEq, Repr

def Flaw.message : Flaw → String
  | .notAnAddress text => "'" ++ text ++ "' is not a socket address"
  | .notRooted => "must start with '/'"
  | .zero => "must be greater than 0"
  | .badPattern cause => cause.message
  | .badHeaderName text => "'" ++ text ++ "' is not a valid header name"
  | .badHeaderValue => "not a valid header value"
  | .badStatus code => toString code ++ " is not a valid HTTP status"

/-- A flaw and the field that has it. -/
structure Problem where
  field : String
  flaw : Flaw
  deriving DecidableEq, Repr

def Problem.message (p : Problem) : String := p.field ++ ": " ++ p.flaw.message

/-! ## Checks -/

/-- The problem of a field that has the flaw unless the check holds. -/
def check (ok : Bool) (field : String) (flaw : Flaw) : List Problem :=
  if ok then [] else [⟨field, flaw⟩]

/-- The problem of a pattern that cannot be compiled. -/
def patternProblems (mode : Pattern.Mode) (field pattern : String) : List Problem :=
  match Pattern.compile mode pattern with
  | .ok _ => []
  | .error cause => [⟨field, .badPattern cause⟩]

/-- The problem of a text that cannot be the value of a header. -/
def headerValueProblems (field text : String) : List Problem :=
  check (HeaderValue.ofText? text).isSome field .badHeaderValue

/-- The problems of the elements of a list, the first of which has the index `i`. -/
def listProblems {α : Type} (problems : String → α → List Problem) (field : String) :
    (i : Nat) → List α → List Problem
  | _, [] => []
  | i, a :: rest =>
    problems (field ++ "[" ++ toString i ++ "]") a ++ listProblems problems field (i + 1) rest

/-- The problems of the settings of the server. -/
def Server.problems (s : Server) : List Problem :=
  check (Address.isSocketAddress s.bindAddress) "server.bind_address"
      (.notAnAddress s.bindAddress) ++
    check (s.basePath.startsWith '/') "server.base_path" .notRooted ++
    check (s.requestTimeoutSecs != 0) "server.request_timeout_secs" .zero

def Filter.problems (field : String) (f : Filter) : List Problem :=
  (if f.pattern.isEmpty then [] else patternProblems .exact (field ++ ".pattern") f.pattern) ++
    check (HeaderName.ofText? f.header).isSome (field ++ ".header") (.badHeaderName f.header) ++
    headerValueProblems (field ++ ".value") f.value

def Page.problems (field : String) (p : Page) : List Problem :=
  patternProblems .exact (field ++ ".route") (RouteSpec.parse p.route).pattern ++
    check (Status.ofCode? p.status).isSome (field ++ ".status") (.badStatus p.status) ++
    headerValueProblems (field ++ ".content_type") p.contentType

def Mount.problems (field : String) (m : Mount) : List Problem :=
  patternProblems .mount (field ++ ".prefix") m.pattern ++
    listProblems Filter.problems (field ++ ".filters") 0 m.filters ++
    listProblems Page.problems (field ++ ".routes") 0 m.pages

def problems (c : Config) : List Problem :=
  c.server.problems ++ listProblems Filter.problems "filters" 0 c.filters ++
    listProblems Page.problems "routes" 0 c.pages ++ listProblems Mount.problems "mounts" 0 c.mounts

end Config

end Signpost
