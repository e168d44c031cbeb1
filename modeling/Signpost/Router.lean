import Signpost.Callback
import Signpost.RouteSpec

/-!
# Routers

A router is a list of filters and a list of routes, both in the order of their registration. A route
is a pattern with a handler for each of its methods, or a mount: a router of its own below a
pattern. Routers are built by steps, and a step that is refused leaves the router as it was.
-/

namespace Signpost

/-- A filter and the paths that it is for; without a pattern it is for all paths. -/
structure Guard (ν : Type) where
  pattern : Option Pattern
  callback : Callback ν .filter

/-- A route of a router. -/
inductive Route (ν : Type) where
  /-- Serves the paths that the pattern matches, by a handler for each method. -/
  | page (pattern : Pattern) (handlers : Dict (Callback ν .handler))
  /-- Gives what follows the pattern to the filters and routes below it. -/
  | mount (pattern : Pattern) (filters : List (Guard ν)) (routes : List (Route ν))

/-- A router. -/
structure Router (ν : Type) where
  filters : List (Guard ν) := []
  routes : List (Route ν) := []

variable {ν : Type}

instance : Inhabited (Router ν) := ⟨{}⟩

/-! ## Handlers -/

namespace Route

/-- Binds the handler to the methods, each of which must be free. -/
def bind (pattern : String) (callback : Callback ν .handler) :
    List String → Dict (Callback ν .handler) →
      Except RegistrationFault (Dict (Callback ν .handler))
  | [], handlers => .ok handlers
  | method :: methods, handlers =>
    if handlers.contains method then .error (.conflict pattern method)
    else bind pattern callback methods (handlers.insert method callback)

/-- The routes with the handler bound at the first route that has the pattern of `spec`, if there is
one. -/
def rebind (spec : RouteSpec) (callback : Callback ν .handler) :
    List (Route ν) → Option (Except RegistrationFault (List (Route ν)))
  | [] => none
  | .page pattern handlers :: rest =>
    if pattern.text = spec.pattern then
      some ((bind pattern.text callback spec.methods handlers).map (.page pattern · :: rest))
    else (rebind spec callback rest).map (·.map (.page pattern handlers :: ·))
  | .mount pattern filters routes :: rest =>
    (rebind spec callback rest).map (·.map (.mount pattern filters routes :: ·))

def create (spec : RouteSpec) (callback : Callback ν .handler) :
    Except RegistrationFault (Route ν) :=
  match Pattern.compile .exact spec.pattern with
  | .error cause => .error (.badPattern cause)
  | .ok pattern => (bind spec.pattern callback spec.methods Dict.empty).map (.page pattern ·)

end Route

/-! ## Steps -/

namespace Router

def handle (router : Router ν) (route : String) (callback : Callback ν .handler) :
    Except RegistrationFault (Router ν) :=
  let spec := RouteSpec.parse route
  match Route.rebind spec callback router.routes with
  | some routes => routes.map fun routes => { router with routes }
  | none =>
    (Route.create spec callback).map fun route => { router with routes := router.routes ++ [route] }

/-- Registers a filter for the paths that match the pattern; for all paths if the pattern is
empty. -/
def filter (router : Router ν) (pattern : String) (callback : Callback ν .filter) :
    Except RegistrationFault (Router ν) :=
  let add (pattern : Option Pattern) : Router ν :=
    { router with filters := router.filters ++ [{ pattern, callback }] }
  if pattern.isEmpty then .ok (add none)
  else match Pattern.compile .exact pattern with
    | .error cause => .error (.badPattern cause)
    | .ok pattern => .ok (add (some pattern))

/-- Whether mounting below the pattern means the router itself. -/
def mountsSelf (pattern : String) : Bool := pattern.isEmpty || pattern == "/"

/-- The router with another one mounted below the pattern. -/
def mount (router : Router ν) (pattern : Pattern) (below : Router ν) : Router ν :=
  { router with routes := router.routes ++ [.mount pattern below.filters below.routes] }

end Router

namespace Report

def isOk : Report → Bool
  | .refused _ => false
  | _ => true

end Report

namespace Registered

/-- The report of a list of steps whose first step went as reported. -/
def cons (report : Report) (rest : Registered) : Registered :=
  { rest with reports := report :: rest.reports }

end Registered

mutual

def Step.perform (stop : Bool) : Step ν → Router ν → Router ν × Report
  | .handle route callback, router =>
    match router.handle route callback with
    | .error fault => (router, .refused fault)
    | .ok router => (router, .added router.filters.length router.routes.length)
  | .filter pattern callback, router =>
    match router.filter pattern callback with
    | .error fault => (router, .refused fault)
    | .ok router => (router, .added router.filters.length router.routes.length)
  | .mount pattern steps, router =>
    if Router.mountsSelf pattern then
      let (router, nested) := Step.performAll stop steps router
      (router, .mounted router.filters.length router.routes.length nested.reports)
    else match Pattern.compile .mount pattern with
      | .error cause => (router, .refused (.badPattern cause))
      | .ok pattern =>
        let (below, nested) := Step.performAll stop steps {}
        let router := router.mount pattern below
        (router, .mounted router.filters.length router.routes.length nested.reports)

/-- The router after steps. With `stop` set, a refused step is the last of its list. -/
def Step.performAll (stop : Bool) : List (Step ν) → Router ν → Router ν × Registered
  | [], router => (router, { complete := true, reports := [] })
  | step :: steps, router =>
    let (router, report) := step.perform stop router
    if stop && !report.isOk then (router, { complete := false, reports := [report] })
    else
      let (router, rest) := Step.performAll stop steps router
      (router, rest.cons report)

end

end Signpost
