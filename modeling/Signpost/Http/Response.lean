import Signpost.Dict
import Signpost.Http.Header
import Signpost.Http.Status

/-!
# Responses

A response is built by edits. The status is committed once: by the first edit that names one, or as
200 by the first that writes to the body. Bytes are only ever added at the end of the body.
-/

namespace Signpost.Http

/-- A response under construction. -/
structure Response where
  status : Status := .ok
  committed : Bool := false
  /-- The value of each header by its name. -/
  headers : Dict HeaderValue := Dict.empty
  body : Bytes := []
  deriving Repr, Inhabited

namespace Response

/-- Fixes the status unless one was fixed before. -/
def commit (r : Response) (status : Status) : Response :=
  if r.committed then r else { r with status, committed := true }

def write (r : Response) (bytes : Bytes) : Response :=
  let r := r.commit .ok
  { r with body := r.body ++ bytes }

/-- Sets a header, in place of the value that it had. -/
def setHeader (r : Response) (name : HeaderName) (value : HeaderValue) : Response :=
  { r with headers := r.headers.insert name.text value }

def removeHeader (r : Response) (name : HeaderName) : Response :=
  { r with headers := r.headers.erase name.text }

/-- Sets the content type unless there is one. -/
def defaultContentType (r : Response) (value : HeaderValue) : Response :=
  if r.headers.contains HeaderName.contentType.text then r
  else r.setHeader .contentType value

/-- One step in building a response. -/
inductive Edit where
  | commit (status : Status)
  | write (bytes : Bytes)
  | setHeader (name : HeaderName) (value : HeaderValue)
  | removeHeader (name : HeaderName)
  | defaultContentType (value : HeaderValue)
  deriving DecidableEq, Repr

def edit (r : Response) : Edit → Response
  | .commit status => r.commit status
  | .write bytes => r.write bytes
  | .setHeader name value => r.setHeader name value
  | .removeHeader name => r.removeHeader name
  | .defaultContentType value => r.defaultContentType value

end Response

end Signpost.Http
