import Signpost.Http.Header
import Signpost.Http.Uri

/-!
# Requests

A request is built from texts; the first of them that does not fit is reported: the method, the
target, or a header in the order given.
-/

namespace Signpost.Http

/-- A request with its whole body. -/
structure Request where
  method : Method := .get
  uri : Uri
  headers : List Header := []
  body : Bytes := []
  deriving DecidableEq, Repr, Inhabited

namespace Request

/-- Why a request cannot be built. -/
inductive Fault where
  | method
  | uri (cause : Uri.Fault)
  | headerName
  | headerValue
  deriving DecidableEq, Repr, Inhabited

namespace Fault

def message : Fault → String
  | .method => "invalid HTTP method"
  | .uri cause => cause.message
  | .headerName => "invalid HTTP header name"
  | .headerValue => "failed to parse header value"

end Fault

def header (name : String) (value : Bytes) : Except Fault Header :=
  match HeaderName.ofText? name with
  | none => .error .headerName
  | some name =>
    match HeaderValue.ofBytes? value with
    | none => .error .headerValue
    | some value => .ok (name, value)

def build (method uri : String) (headers : List (String × Bytes)) (body : Bytes) :
    Except Fault Request :=
  match Method.ofName? method with
  | none => .error .method
  | some method =>
    match Uri.parse uri with
    | .error cause => .error (.uri cause)
    | .ok uri => (headers.mapM fun h => header h.1 h.2).map fun headers =>
      { method, uri, headers, body }

def header? (r : Request) (name : HeaderName) : Option HeaderValue := r.headers.lookup name

end Request

end Signpost.Http
