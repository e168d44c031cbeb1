import Signpost.Dispatch

/-!
# Sites

A site is what stays the same while a request is served: the router that it started with and the
error page. It says how failures are reported and how pages are included in one another. An included
page is a request of its own to the same router; all that the including page keeps of it are its
body and its status.

The error page may report a failure in its turn, and is called again then. Nothing keeps it from
going on like that for ever, so a run is told for a given room: how many of these calls fit into one
another. A report that finds no room left ends in a state that has overflowed.
-/

namespace Signpost

open Http (Request Response Status Method)

variable {ν : Type}

/-- The router and the error page of a request; without a router nothing can be included. -/
structure Site (ν : Type) where
  root : Option (Router ν)
  errorPage : ErrorPage ν
  /-- How many calls of the error page fit into one. In a running program the stack alone bounds
  them. -/
  room : Nat := 1000

/-! ## Included pages -/

namespace Context

/-- The path of an included page as seen from the application, and its query. -/
def includeTarget (path : String) : String × Option String :=
  match Text.cut? '?' path.toList with
  | none => (Path.join "/" path, none)
  | some (target, query) => (Path.join "/" (String.ofList target), some (String.ofList query))

/-- The request for an included page. It asks for the page with the headers of the including one and
without a body. -/
def includeRequest (c : Context) (path : String) : Except Request.Fault Request :=
  let (target, query) := includeTarget path
  let uri := Path.join c.basePath target ++ (query.map ("?" ++ ·)).getD ""
  (Request.build Method.get.name uri [] []).map fun request =>
    { request with headers := c.request.headers }

/-- The context of an included page at its start. -/
def child (c : Context) (request : Request) : Context :=
  { request, basePath := c.basePath, depth := c.depth + 1 }

end Context

namespace Host

/-- Reports what a dispatch did not deal with: that nothing matched, or the failure it ended
with. -/
def settle (host : Host ν) : Except Failure Bool × State ν → State ν
  | (.ok true, s) => s
  | (.ok false, s) => host.report .notFound .notFound s
  | (.error failure, s) => host.report failure .internalError s

end Host

namespace Site

/-- Records a failure and calls the error page, if there is room for `room` calls that fit into one
another. The error page can report in its turn, with the room that is left. -/
def reportBy (site : Site ν) (page : String → State ν → Except Failure Status × State ν) :
    (room : Nat) → Failure → Status → State ν → State ν
  | 0, failure, _, s => (s.record failure).overflow
  | room + 1, failure, status, s =>
    let host : Host ν := { report := site.reportBy page room, page }
    ((site.errorPage status).runAlone host (s.record failure)).2

/-- What callbacks ask of the site where pages are included by `page`. -/
def hostBy (site : Site ν) (page : String → State ν → Except Failure Status × State ν)
    (room : Nat) : Host ν :=
  { report := site.reportBy page room, page }

/-- Includes a page, in which pages can be included `levels - 1` deep. -/
def page (site : Site ν) : (levels : Nat) → String → State ν → Except Failure Status × State ν
  | levels, path, s =>
    match site.root, levels with
    | none, _ => (.error .includeUnavailable, s)
    | some _, 0 => (.error .includeTooDeep, s)
    | some root, levels + 1 =>
      match s.context.includeRequest path with
      | .error cause => (.error (.request cause), s)
      | .ok request =>
        let host := site.hostBy (site.page levels) (site.room + 1)
        let start : State ν := { s with context := s.context.child request }
        let final := host.settle (root.dispatch host (Context.includeTarget path).1 start)
        (.ok final.context.response.status,
          { context := s.context.edit (.write final.context.response.body)
            world := final.world })

/-- What the callbacks of a context ask of the site. -/
def host (site : Site ν) (context : Context) : Host ν :=
  site.hostBy (site.page (maxIncludeDepth - context.depth)) (site.room + 1)

end Site

end Signpost
