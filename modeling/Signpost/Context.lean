import Signpost.Attributes
import Signpost.Failure
import Signpost.Http.Response

/-!
# Contexts

A context is what the callbacks of one request share: the request, the variables of the path,
attributes, the response under construction and the last failure that was reported. A page included
in another has a context of its own.
-/

namespace Signpost

open Http (Request Response)

/-- The state of one request. -/
structure Context where
  request : Request
  /-- The path that the application is mounted at. -/
  basePath : String := "/"
  /-- In how many pages this one is included. -/
  depth : Nat := 0
  vars : Vars := Dict.empty
  attributes : Attributes := {}
  response : Response := {}
  /-- The last failure that was reported. -/
  failure : Option Failure := none

namespace Context

def path (c : Context) : String := c.request.uri.path

/-- The parameters in the query of the request. -/
def query (c : Context) : Params :=
  (c.request.uri.query.map Params.ofQuery).getD Dict.empty

def setVars (c : Context) (vars : Vars) : Context := { c with vars }

/-- The context after an edit of its response. -/
def edit (c : Context) (e : Response.Edit) : Context :=
  { c with response := c.response.edit e }

end Context

end Signpost
