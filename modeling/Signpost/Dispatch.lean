import Signpost.Router

/-!
# Dispatch

A request goes through the filters of a router that are for its path, in order, and then to the
first route that matches. Each filter decides whether what comes after it happens at all, and it can
make it happen only once. A route that matches has the last word: no route after it is tried, even
if it has no handler for the method or if its handler fails.

A run leaves a trail of what happened. Nothing in the run depends on it.
-/

namespace Signpost

open Http (Response Status)

variable {ν : Type}

/-! ## Trails -/

/-- Where a router stands in a run, and the path as seen from there. -/
structure Place where
  /-- In how many pages the page is included. -/
  depth : Nat
  /-- The positions of the mounts above the router, the outermost first. -/
  mounts : List Nat
  path : String
  deriving DecidableEq, Repr

/-- The place of a router mounted at the position `i`, to which `path` is given. -/
def Place.below (place : Place) (i : Nat) (path : String) : Place :=
  { place with mounts := place.mounts ++ [i], path }

/-- Something that happened in a run. Filters and routes are named by their positions in their
router. -/
inductive Event (ν : Type) where
  /-- A filter was called. -/
  | enter (place : Place) (filter : Nat)
  /-- A filter asked, for the first time, for what comes after it. -/
  | descend (place : Place) (filter : Nat)
  /-- What comes after the filter was done. -/
  | resume (place : Place) (filter : Nat) (answer : Except Failure Bool)
  /-- A filter was done: what it returned, and whether it had claimed the request. -/
  | leave (place : Place) (filter : Nat) (result : Except Failure Unit) (claimed : Bool)
  /-- A handler was called. -/
  | serve (place : Place) (route : Nat)
  /-- A handler was done. -/
  | served (place : Place) (route : Nat) (result : Except Failure Unit)
  /-- A route matched and had no handler for the method. -/
  | refuse (place : Place) (route : Nat)
  /-- A callback left a note. -/
  | note (entry : ν)

/-! ## States -/

/-- What the requests of an application share, and the trail. -/
structure World (ν : Type) where
  /-- The router that the next request is dispatched on. -/
  published : Router ν := {}
  /-- The attributes of the application. -/
  shared : Attributes := {}
  /-- What happened, the latest first. -/
  trail : List (Event ν) := []
  /-- Whether a failure was reported with no room left for the error page. A running program does not
  come back from such a report, so what follows it stands for no run. -/
  overflowed : Bool := false

namespace World

def notes (w : World ν) : List ν :=
  w.trail.reverse.filterMap fun
    | .note entry => some entry
    | _ => none

/-- The world after steps of a registration; what they made is published, refused steps or not. -/
def register (w : World ν) (stop : Bool) (steps : List (Step ν)) : World ν × Registered :=
  let (published, registered) := Step.performAll stop steps w.published
  ({ w with published }, registered)

end World

/-- The state of a run. -/
structure State (ν : Type) where
  context : Context
  world : World ν

namespace State

/-- The state with one more event in its trail. -/
def log (s : State ν) (event : Event ν) : State ν :=
  { s with world := { s.world with trail := event :: s.world.trail } }

def setVars (s : State ν) (vars : Vars) : State ν :=
  { s with context := s.context.setVars vars }

def record (s : State ν) (failure : Failure) : State ν :=
  { s with context := { s.context with failure := some failure } }

def overflow (s : State ν) : State ν :=
  { s with world := { s.world with overflowed := true } }

end State

/-! ## Running callbacks -/

/-- What a callback asks of its surroundings. -/
structure Host (ν : Type) where
  /-- Reports a failure. -/
  report : Failure → Status → State ν → State ν
  /-- Includes a page. -/
  page : String → State ν → Except Failure Status × State ν

/-- What is left when a callback is done. -/
structure Outcome (ν : Type) where
  result : Except Failure Unit
  passage : Passage
  state : State ν

/-- Runs a callback. The function `next` is what comes after a filter. -/
def Callback.run (host : Host ν) (next : State ν → Except Failure Bool × State ν) :
    {role : Role} → Callback ν role → Passage → State ν → Outcome ν
  | _, .finish result, p, s => ⟨result, p, s⟩
  | _, .look k, p, s => run host next (k s.context) p s
  | _, .setVars vars k, p, s => run host next k p (s.setVars vars)
  | _, .setAttributes attributes k, p, s =>
    run host next k p { s with context := { s.context with attributes } }
  | _, .edit e k, p, s => run host next k p { s with context := s.context.edit e }
  | _, .share change k, p, s =>
    run host next (k s.world.shared) p
      { s with world := { s.world with shared := change s.world.shared } }
  | _, .report failure status k, p, s => run host next k p (host.report failure status s)
  | _, .page path k, p, s =>
    let (answer, s) := host.page path s
    run host next (k answer) p s
  | _, .register stop steps k, p, s =>
    let (world, registered) := s.world.register stop steps
    run host next (k registered) p { s with world }
  | _, .note entry k, p, s => run host next k p (s.log (.note entry))
  | _, .next k, p, s =>
    if p.nextCalled then run host next (k (.error .multipleNext)) p s
    else
      let (answer, s) := next s
      run host next (k answer) (p.answered answer) s
  | _, .claim k, p, s => run host next k { p with claimed := true } s
  | _, .passage k, p, s => run host next (k p) p s

namespace Callback

/-- Runs a callback that no part of a dispatch comes after. -/
def runAlone {role : Role} (host : Host ν) (callback : Callback ν role) (s : State ν) :
    Except Failure Unit × State ν :=
  let outcome := callback.run host (fun s => (.ok false, s)) {} s
  (outcome.result, outcome.state)

end Callback

/-! ## Filters -/

namespace Guard

/-- The captures of the filter, if it is for the path. -/
def captures? (g : Guard ν) (path : String) : Option Vars :=
  match g.pattern with
  | none => some Dict.empty
  | some pattern => pattern.matchVars? path Dict.empty

/-- Goes through the filters that are for the path and then to `routes`. The first filter has the
position `i`. -/
def through (host : Host ν) (place : Place) (routes : State ν → Except Failure Bool × State ν) :
    Nat → List (Guard ν) → State ν → Except Failure Bool × State ν
  | _, [], s => routes s
  | i, g :: rest, s =>
    match g.captures? place.path with
    | none => through host place routes (i + 1) rest s
    | some captures =>
      let next (s : State ν) : Except Failure Bool × State ν :=
        let (answer, s) := through host place routes (i + 1) rest (s.log (.descend place i))
        (answer, s.log (.resume place i answer))
      let passage : Passage := { path := place.path, vars := s.context.vars.merge captures }
      let outcome := g.callback.run host next passage (s.log (.enter place i))
      (outcome.result.map fun _ => outcome.passage.handled,
        outcome.state.log (.leave place i outcome.result outcome.passage.claimed))

end Guard

/-! ## Routes -/

namespace Route

/-- The handler for a method: its own, or else the one for all methods. -/
def handler? (handlers : Dict (Callback ν .handler)) (method : String) :
    Option (Callback ν .handler) :=
  (handlers.get? (String.ofList (upperAscii method.toList))).or (handlers.get? anyMethod)

/-- Serves a path that the pattern of a route matched. -/
def serve (host : Host ν) (place : Place) (i : Nat) (handlers : Dict (Callback ν .handler))
    (s : State ν) : Except Failure Bool × State ν :=
  match handler? handlers s.context.request.method.name with
  | some handler =>
    let (result, s) := handler.runAlone host (s.log (.serve place i))
    (result.map fun _ => true, s.log (.served place i result))
  | none =>
    (.ok true, host.report .methodNotAllowed .methodNotAllowed (s.log (.refuse place i)))

mutual

/-- Dispatches to the route at the position `i`. -/
def dispatch (host : Host ν) (place : Place) (i : Nat) :
    Route ν → State ν → Except Failure Bool × State ν
  | .page pattern handlers, s =>
    match pattern.matchVars? place.path s.context.vars with
    | none => (.ok false, s)
    | some vars => serve host place i handlers (s.setVars vars)
  | .mount pattern filters routes, s =>
    match pattern.matchPrefix? place.path Dict.empty with
    | none => (.ok false, s)
    | some (suffix, captures) =>
      let below := place.below i suffix
      let answer := Guard.through host below (fun s => dispatchAll host below 0 routes s) 0 filters
        (s.setVars (s.context.vars.merge captures))
      match answer with
      | (.ok false, s') =>
        (.ok false, if captures.isEmpty then s' else s'.setVars s.context.vars)
      | answer => answer

/-- Dispatches to the first of the routes that matches. The first route has the position `i`. -/
def dispatchAll (host : Host ν) (place : Place) (i : Nat) :
    List (Route ν) → State ν → Except Failure Bool × State ν
  | [], s => (.ok false, s)
  | route :: rest, s =>
    match dispatch host place i route s with
    | (.ok false, s) => dispatchAll host place (i + 1) rest s
    | answer => answer

end

end Route

/-! ## Routers -/

namespace Router

/-- Dispatches a path. Answers whether a filter or a route dealt with the request. -/
def dispatch (host : Host ν) (router : Router ν) (path : String) (s : State ν) :
    Except Failure Bool × State ν :=
  let place : Place := { depth := s.context.depth, mounts := [], path }
  Guard.through host place (fun s => Route.dispatchAll host place 0 router.routes s) 0
    router.filters s

end Router

end Signpost
