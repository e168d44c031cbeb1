import Signpost.Http.Request
import Signpost.Pattern.Basic
import Signpost.Query
import Signpost.Url.Fault

/-!
# Failures

A failure is what a callback, the dispatcher or a registration can end with. Whatever a callback
fails with travels through the dispatcher unchanged.
-/

namespace Signpost

/-- Why something could not be registered. -/
inductive RegistrationFault where
  | badPattern (cause : Pattern.Fault)
  /-- The method is bound twice for one pattern. -/
  | conflict (pattern method : String)
  deriving DecidableEq, Repr

namespace RegistrationFault

def message : RegistrationFault → String
  | .badPattern cause => cause.message
  | .conflict pattern method =>
    "conflicting handler methods mapped for pattern '" ++ pattern ++ "' (method " ++ method ++ ")"

end RegistrationFault

def maxIncludeDepth : Nat := 8

/-- Why a request was not served as it was meant to be. -/
inductive Failure where
  /-- A filter asked a second time for what comes after it. -/
  | multipleNext
  /-- The path has a route, but not for the method. -/
  | methodNotAllowed
  /-- The path has no route. -/
  | notFound
  /-- The context does not belong to an application. -/
  | includeUnavailable
  /-- Pages are included too deep in one another. -/
  | includeTooDeep
  /-- The request for an included page cannot be built. -/
  | request (cause : Http.Request.Fault)
  /-- A text cannot be the value of a header. -/
  | headerValue
  /-- The target of a redirection is no URL. -/
  | url (cause : Url.Fault)
  /-- A parameter has a value of the wrong kind. -/
  | value (cause : ValueFault)
  /-- A callback gave its own reason. -/
  | plain (reason : String)
  deriving DecidableEq, Repr, Inhabited

namespace Failure

def message : Failure → String
  | .multipleNext => "multiple FilterContext::next calls"
  | .methodNotAllowed => "Method Not Allowed"
  | .notFound => "Not Found"
  | .includeUnavailable => "include requires a context served by an application"
  | .includeTooDeep => "include nesting deeper than " ++ toString maxIncludeDepth ++ " levels"
  | .request cause => cause.message
  | .headerValue => "failed to parse header value"
  | .url cause => cause.message
  | .value cause => cause.message
  | .plain reason => reason

end Failure

end Signpost
