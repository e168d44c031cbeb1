import Signpost.Site

/-!
# Applications

An application is mounted at a base path and answers every request for a path below it by the router
that is published when the request comes. Callbacks may publish another router meanwhile; the
request goes on with the one it started with.
-/

namespace Signpost

open Http (Request Response)

variable {ν : Type}

/-- What an application is set up with. -/
structure App (ν : Type) where
  /-- A canonical path. -/
  basePath : String := "/"
  errorPage : ErrorPage ν := Callback.plainErrorPage
  /-- How many calls of the error page fit into one. In a running program the stack alone bounds
  them. -/
  room : Nat := 1000
  /-- The greatest length of the body of a request. -/
  maxBodyBytes : Nat := 2097152

namespace App

def mountedAt (path : String) : App ν := { basePath := Path.clean path }

/-- The path as seen from the application, if it lies below its base path. -/
def routePath? (app : App ν) (path : String) : Option String :=
  if app.basePath = "/" then some (Path.clean path)
  else
    match path.dropPrefix? app.basePath with
    | none => none
    | some rest =>
      let rest := rest.toString
      if rest.isEmpty || rest.startsWith '/' then some (Path.clean rest) else none

def site (app : App ν) (w : World ν) : Site ν :=
  { root := some w.published, errorPage := app.errorPage, room := app.room }

def context (app : App ν) (request : Request) : Context :=
  { request, basePath := app.basePath }

def serve (app : App ν) (w : World ν) (request : Request) : Response × World ν :=
  let context := app.context request
  let host := (app.site w).host context
  let start : State ν := { context, world := w }
  let final :=
    match app.routePath? context.path with
    | none => host.report .notFound .notFound start
    | some path => host.settle (w.published.dispatch host path start)
  (final.context.response, final.world)

end App

end Signpost
