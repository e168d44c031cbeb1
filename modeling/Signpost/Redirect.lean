import Signpost.Callback
import Signpost.Url.Basic

/-!
# Redirections

A response redirects to an absolute URL, which is brought into its normal form, or to a path below
the base path of the application.
-/

namespace Signpost

open Http (HeaderValue Status)

/-- Where a redirection from below the base path to `location` goes. -/
def redirectTarget (basePath location : String) : Except Failure String :=
  match Url.parse location with
  | .ok url => .ok url.text
  | .error .noScheme => .ok (Path.join basePath location)
  | .error cause => .error (.url cause)

namespace Callback

/-- Redirects to a location and goes on with whether that was possible. -/
def redirect {ν : Type} {role : Role} (location : String) (status : Status)
    (k : Except Failure Unit → Callback ν role) : Callback ν role :=
  look fun c =>
    match redirectTarget c.basePath location with
    | .error failure => k (.error failure)
    | .ok target =>
      match HeaderValue.ofText? target with
      | none => k (.error .headerValue)
      | some value => edit (.setHeader .location value) (edit (.commit status) (k (.ok ())))

end Callback

end Signpost
