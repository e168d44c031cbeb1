import Signpost.Proofs.Registration.WellFormed
import Signpost.Site
import Mathlib.Data.Option.Basic
import Mathlib.Logic.Function.Iterate

/-!
# Simulations

Two runs can be compared step by step if their states are related and every step keeps them so
(`Simulation`). Then it is enough to compare the callbacks, each by itself (`Callback.Simulates`).
Whatever routers and sites are made of them in the same way, dispatches give the same answers and
end in related states (`Router.Simulates.dispatch`), included pages and reports as well
(`Site.Simulates.hostBy`).
-/

namespace Signpost

open Http (Request Status)

variable {ν μ : Type}

/-! ## Related states -/

/-- The answers are the same and leave related states. -/
def Answers {α : Type} (R : State ν → State μ → Prop) (a : α × State ν) (b : α × State μ) : Prop :=
  a.1 = b.1 ∧ R a.2 b.2

/-- The events are the same, and happen at the two places. -/
inductive Event.Counterpart (place place' : Place) : Event ν → Event μ → Prop
  | enter (i : Nat) : Counterpart place place' (.enter place i) (.enter place' i)
  | descend (i : Nat) : Counterpart place place' (.descend place i) (.descend place' i)
  | resume (i : Nat) (answer : Except Failure Bool) :
      Counterpart place place' (.resume place i answer) (.resume place' i answer)
  | leave (i : Nat) (result : Except Failure Unit) (claimed : Bool) :
      Counterpart place place' (.leave place i result claimed) (.leave place' i result claimed)
  | serve (i : Nat) : Counterpart place place' (.serve place i) (.serve place' i)
  | served (i : Nat) (result : Except Failure Unit) :
      Counterpart place place' (.served place i result) (.served place' i result)
  | refuse (i : Nat) : Counterpart place place' (.refuse place i) (.refuse place' i)

/-- The relation `R` between states is kept by all that happens in a run besides callbacks, at
places that are related by `P`. -/
structure Simulation (R : State ν → State μ → Prop) (P : Place → Place → Prop) : Prop where
  request_eq : ∀ {s t}, R s t → s.context.request = t.context.request
  vars_eq : ∀ {s t}, R s t → s.context.vars = t.context.vars
  response_eq : ∀ {s t}, R s t → s.context.response = t.context.response
  includeRequest_eq : ∀ {s t}, R s t → ∀ path,
    s.context.includeRequest path = t.context.includeRequest path
  setVars : ∀ {s t}, R s t → ∀ vars, R (s.setVars vars) (t.setVars vars)
  record : ∀ {s t}, R s t → ∀ failure, R (s.record failure) (t.record failure)
  overflow : ∀ {s t}, R s t → R s.overflow t.overflow
  log : ∀ {s t place place' event event'}, R s t → P place place' →
    Event.Counterpart place place' event event' → R (s.log event) (t.log event')
  /-- An included page starts with a context of its own, ... -/
  child : ∀ {s t}, R s t → ∀ request,
    R { s with context := s.context.child request } { t with context := t.context.child request }
  /-- ... and what it leaves behind is its world and what the including page does with its
  response. -/
  resume : ∀ {s t u v}, R s t → R u v → ∀ e,
    R { context := s.context.edit e, world := u.world }
      { context := t.context.edit e, world := v.world }
  start : ∀ {s t}, R s t → ∀ path,
    P { depth := s.context.depth, mounts := [], path }
      { depth := t.context.depth, mounts := [], path }
  path_eq : ∀ {place place'}, P place place' → place.path = place'.path
  below : ∀ {place place'}, P place place' → ∀ i path, P (place.below i path) (place'.below i path)

/-- What callbacks ask is answered alike in related states. -/
structure Host.Simulates (R : State ν → State μ → Prop) (host : Host ν) (host' : Host μ) :
    Prop where
  report : ∀ failure status {s t}, R s t →
    R (host.report failure status s) (host'.report failure status t)
  page : ∀ path {s t}, R s t → Answers R (host.page path s) (host'.page path t)

/-- What the two runs left is the same, in related states. -/
structure Outcome.Simulates (R : State ν → State μ → Prop) (a : Outcome ν) (b : Outcome μ) :
    Prop where
  result_eq : a.result = b.result
  passage_eq : a.passage = b.passage
  state : R a.state b.state

/-- The callbacks do the same from related states, wherever they stand. -/
def Callback.Simulates (R : State ν → State μ → Prop) {role : Role} (callback : Callback ν role)
    (callback' : Callback μ role) : Prop :=
  ∀ {host : Host ν} {host' : Host μ}, host.Simulates R host' →
    ∀ {next : State ν → Except Failure Bool × State ν}
      {next' : State μ → Except Failure Bool × State μ},
      (∀ {s t}, R s t → Answers R (next s) (next' t)) → ∀ (p : Passage) {s t}, R s t →
        (callback.run host next p s).Simulates R (callback'.run host' next' p t)

/-! ## Related routers -/

structure Guard.Simulates (R : State ν → State μ → Prop) (g : Guard ν) (g' : Guard μ) : Prop where
  pattern_eq : g.pattern = g'.pattern
  callback : g.callback.Simulates R g'.callback

mutual

/-- The routes have the same form, with callbacks that do the same. -/
inductive Route.Simulates (R : State ν → State μ → Prop) : Route ν → Route μ → Prop
  | page {pattern : Pattern} {handlers : Dict (Callback ν .handler)}
      {handlers' : Dict (Callback μ .handler)}
      (h : ∀ method, Option.Rel (Callback.Simulates R) (handlers.get? method)
        (handlers'.get? method)) :
      Simulates R (.page pattern handlers) (.page pattern handlers')
  | mount {pattern : Pattern} {filters : List (Guard ν)} {filters' : List (Guard μ)}
      {routes : List (Route ν)} {routes' : List (Route μ)}
      (hfilters : List.Forall₂ (Guard.Simulates R) filters filters')
      (hroutes : Route.SimulatesAll R routes routes') :
      Simulates R (.mount pattern filters routes) (.mount pattern filters' routes')

inductive Route.SimulatesAll (R : State ν → State μ → Prop) :
    List (Route ν) → List (Route μ) → Prop
  | nil : SimulatesAll R [] []
  | cons {route : Route ν} {route' : Route μ} {rest : List (Route ν)} {rest' : List (Route μ)}
      (hroute : Route.Simulates R route route') (hrest : SimulatesAll R rest rest') :
      SimulatesAll R (route :: rest) (route' :: rest')

end

/-- The routers have the same form, with callbacks that do the same. -/
structure Router.Simulates (R : State ν → State μ → Prop) (router : Router ν)
    (router' : Router μ) : Prop where
  filters : List.Forall₂ (Guard.Simulates R) router.filters router'.filters
  routes : Route.SimulatesAll R router.routes router'.routes

/-! ## Dispatch -/

namespace Answers

variable {R : State ν → State μ → Prop} {P : Place → Place → Prop} {s : State ν} {t : State μ}
  {a : Except Failure Bool × State ν} {b : Except Failure Bool × State μ}

/-- Of a mount that nothing matched below, the variables are set back in both states. -/
theorem restore (hR : Simulation R P) (hstart : R s t) (captures : Vars) :
    Answers R a b → Answers R
      (match a with
        | (.ok false, s') =>
          (.ok false, if captures.isEmpty then s' else s'.setVars s.context.vars)
        | answer => answer)
      (match b with
        | (.ok false, t') =>
          (.ok false, if captures.isEmpty then t' else t'.setVars t.context.vars)
        | answer => answer) := by
  intro h
  obtain ⟨answer, s'⟩ := a
  obtain ⟨_, t'⟩ := b
  obtain ⟨rfl, hstate⟩ := h
  match answer with
  | .ok false =>
    refine ⟨rfl, ?_⟩
    dsimp only
    rw [← hR.vars_eq hstart]
    split
    · exact hstate
    · exact hR.setVars hstate _
  | .ok true | .error _ => exact ⟨rfl, hstate⟩

/-- What comes next does the same in both states. -/
theorem orElse {next : State ν → Except Failure Bool × State ν}
    {next' : State μ → Except Failure Bool × State μ}
    (hnext : ∀ {s t}, R s t → Answers R (next s) (next' t)) :
    Answers R a b →
      Answers R (match a with | (.ok false, s) => next s | answer => answer)
        (match b with | (.ok false, t) => next' t | answer => answer) := by
  intro h
  obtain ⟨answer, s⟩ := a
  obtain ⟨_, t⟩ := b
  obtain ⟨rfl, hstate⟩ := h
  match answer with
  | .ok false => exact hnext hstate
  | .ok true | .error _ => exact ⟨rfl, hstate⟩

end Answers

section Dispatch

variable {R : State ν → State μ → Prop} {P : Place → Place → Prop} {host : Host ν}
  {host' : Host μ} {place place' : Place} {s : State ν} {t : State μ}

theorem Callback.Simulates.runAlone {role : Role} {callback : Callback ν role}
    {callback' : Callback μ role} (h : callback.Simulates R callback')
    (hhost : host.Simulates R host') (hstate : R s t) :
    Answers R (callback.runAlone host s) (callback'.runAlone host' t) := by
  have hrun : Outcome.Simulates R (callback.run host (fun s => (.ok false, s)) {} s)
      (callback'.run host' (fun t => (.ok false, t)) {} t) :=
    h hhost (fun hstate => ⟨rfl, hstate⟩) {} hstate
  exact ⟨hrun.result_eq, hrun.state⟩

theorem Outcome.Simulates.leave (hR : Simulation R P) (hplace : P place place') (i : Nat)
    {a : Outcome ν} {b : Outcome μ} (h : a.Simulates R b) :
    Answers R
      (a.result.map fun _ => a.passage.handled,
        a.state.log (.leave place i a.result a.passage.claimed))
      (b.result.map fun _ => b.passage.handled,
        b.state.log (.leave place' i b.result b.passage.claimed)) := by
  rw [← h.result_eq, ← h.passage_eq]
  exact ⟨rfl, hR.log h.state hplace (.leave ..)⟩

theorem Guard.through_simulates (hR : Simulation R P) (hhost : host.Simulates R host')
    (hplace : P place place') {routes : State ν → Except Failure Bool × State ν}
    {routes' : State μ → Except Failure Bool × State μ}
    (hroutes : ∀ {s t}, R s t → Answers R (routes s) (routes' t)) {filters : List (Guard ν)}
    {filters' : List (Guard μ)} (hfilters : List.Forall₂ (Guard.Simulates R) filters filters')
    (i : Nat) (h : R s t) :
    Answers R (Guard.through host place routes i filters s)
      (Guard.through host' place' routes' i filters' t) := by
  induction hfilters generalizing i s t with
  | nil => exact hroutes h
  | @cons g g' rest rest' hg _ ih =>
    have hcaptures : g'.captures? place'.path = g.captures? place.path := by
      rw [Guard.captures?, Guard.captures?, hg.pattern_eq, hR.path_eq hplace]
    rw [Guard.through, Guard.through, hcaptures]
    cases g.captures? place.path with
    | none => exact ih (i + 1) h
    | some captures =>
      dsimp only
      rw [← hR.vars_eq h, ← hR.path_eq hplace]
      refine Outcome.Simulates.leave hR hplace i (hg.callback hhost (fun h => ?_) _
        (hR.log h hplace (.enter i)))
      obtain ⟨hanswer, hstate⟩ := ih (i + 1) (hR.log h hplace (.descend i))
      rw [← hanswer]
      exact ⟨rfl, hR.log hstate hplace (.resume ..)⟩

namespace Route

theorem handler?_rel {handlers : Dict (Callback ν .handler)}
    {handlers' : Dict (Callback μ .handler)}
    (h : ∀ method, Option.Rel (Callback.Simulates R) (handlers.get? method)
      (handlers'.get? method)) (method : String) :
    Option.Rel (Callback.Simulates R) (handler? handlers method) (handler? handlers' method) := by
  unfold handler?
  have hown := h (String.ofList (upperAscii method.toList))
  generalize handlers.get? (String.ofList (upperAscii method.toList)) = own at hown ⊢
  generalize handlers'.get? (String.ofList (upperAscii method.toList)) = own' at hown ⊢
  cases hown with
  | some hhandler => exact .some hhandler
  | none => exact h anyMethod

theorem serve_simulates (hhost : host.Simulates R host')
    (hlog : ∀ {s t event event'}, R s t → Event.Counterpart place place' event event' →
      R (s.log event) (t.log event')) {handlers : Dict (Callback ν .handler)}
    {handlers' : Dict (Callback μ .handler)}
    (hhandlers : ∀ method, Option.Rel (Callback.Simulates R) (handlers.get? method)
      (handlers'.get? method)) (i : Nat) (h : R s t)
    (hrequest : s.context.request = t.context.request) :
    Answers R (serve host place i handlers s) (serve host' place' i handlers' t) := by
  unfold serve
  rw [← hrequest]
  have hrel := handler?_rel hhandlers s.context.request.method.name
  generalize handler? handlers s.context.request.method.name = handler at hrel ⊢
  generalize handler? handlers' s.context.request.method.name = handler' at hrel ⊢
  cases hrel with
  | none => exact ⟨rfl, hhost.report _ _ (hlog h (.refuse i))⟩
  | some hhandler =>
    obtain ⟨hresult, hstate⟩ := hhandler.runAlone hhost (hlog h (.serve i))
    dsimp only
    rw [← hresult]
    exact ⟨rfl, hlog hstate (.served ..)⟩

mutual

theorem dispatch_simulates (hR : Simulation R P) (hhost : host.Simulates R host')
    {place place' : Place} (hplace : P place place') (i : Nat) {route : Route ν} {route' : Route μ}
    {s : State ν} {t : State μ} (h : R s t) : route.Simulates R route' →
    Answers R (dispatch host place i route s) (dispatch host' place' i route' t)
  | @Simulates.page _ _ _ pattern _ _ hhandlers => by
    rw [dispatch, dispatch, ← hR.path_eq hplace, ← hR.vars_eq h]
    cases pattern.matchVars? place.path s.context.vars with
    | none => exact ⟨rfl, h⟩
    | some vars =>
      have hvars := hR.setVars h vars
      exact serve_simulates hhost (fun h => hR.log h hplace) hhandlers i hvars (hR.request_eq hvars)
  | @Simulates.mount _ _ _ pattern _ _ _ _ hfilters hroutes => by
    rw [dispatch, dispatch, ← hR.path_eq hplace]
    cases pattern.matchPrefix? place.path Dict.empty with
    | none => exact ⟨rfl, h⟩
    | some found =>
      obtain ⟨suffix, captures⟩ := found
      dsimp only
      have hthrough := Guard.through_simulates hR hhost (hR.below hplace i suffix)
        (fun h => dispatchAll_simulates hR hhost (hR.below hplace i suffix) 0 h hroutes) hfilters 0
        (hR.setVars h (s.context.vars.merge captures))
      exact .restore hR h captures (hR.vars_eq h ▸ hthrough)

theorem dispatchAll_simulates (hR : Simulation R P) (hhost : host.Simulates R host')
    {place place' : Place} (hplace : P place place') (i : Nat) {routes : List (Route ν)}
    {routes' : List (Route μ)} {s : State ν} {t : State μ} (h : R s t) :
    SimulatesAll R routes routes' →
    Answers R (dispatchAll host place i routes s) (dispatchAll host' place' i routes' t)
  | .nil => ⟨rfl, h⟩
  | .cons hroute hrest => by
    rw [dispatchAll, dispatchAll]
    exact .orElse (fun h => dispatchAll_simulates hR hhost hplace (i + 1) h hrest)
      (dispatch_simulates hR hhost hplace i h hroute)

end

end Route

theorem Router.Simulates.dispatch (hR : Simulation R P) (hhost : host.Simulates R host')
    {router : Router ν} {router' : Router μ} (hrouter : router.Simulates R router') (path : String)
    (h : R s t) : Answers R (router.dispatch host path s) (router'.dispatch host' path t) :=
  Guard.through_simulates hR hhost (hR.start h path)
    (fun hstate => Route.dispatchAll_simulates hR hhost (hR.start h path) 0 hstate hrouter.routes)
    hrouter.filters 0 h

theorem Host.Simulates.settle (hhost : host.Simulates R host')
    {a : Except Failure Bool × State ν} {b : Except Failure Bool × State μ} :
    Answers R a b → R (host.settle a) (host'.settle b) := by
  intro h
  obtain ⟨answer, s⟩ := a
  obtain ⟨_, t⟩ := b
  obtain ⟨rfl, hstate⟩ := h
  match answer with
  | .ok true => exact hstate
  | .ok false => exact hhost.report _ _ hstate
  | .error failure => exact hhost.report failure _ hstate

end Dispatch

/-! ## Sites -/

namespace Site

/-- Includes a page in which pages are included by `page`. -/
def pageBy (site : Site ν) (page : String → State ν → Except Failure Status × State ν)
    (path : String) (s : State ν) : Except Failure Status × State ν :=
  match site.root with
  | none => (.error .includeUnavailable, s)
  | some root =>
    match s.context.includeRequest path with
    | .error cause => (.error (.request cause), s)
    | .ok request =>
      let host := site.hostBy page (site.room + 1)
      let start : State ν := { s with context := s.context.child request }
      let final := host.settle (root.dispatch host (Context.includeTarget path).1 start)
      (.ok final.context.response.status,
        { context := s.context.edit (.write final.context.response.body), world := final.world })

theorem page_succ (site : Site ν) (levels : Nat) :
    site.page (levels + 1) = site.pageBy (site.page levels) := by
  funext path s
  obtain ⟨root, errorPage, room⟩ := site
  cases root with
  | none => rfl
  | some root => rfl

theorem page_eq_iterate (site : Site ν) (levels : Nat) :
    site.page levels = site.pageBy^[levels] (site.page 0) := by
  induction levels with
  | zero => rfl
  | succ levels ih => rw [page_succ, ih, Function.iterate_succ_apply']

theorem page_add (site : Site ν) (levels more : Nat) :
    site.page (levels + more) = site.pageBy^[levels] (site.page more) := by
  rw [page_eq_iterate site (levels + more), page_eq_iterate site more, Function.iterate_add_apply]

/-- The sites are made in the same way of callbacks that do the same. -/
structure Simulates (R : State ν → State μ → Prop) (site : Site ν) (site' : Site μ) : Prop where
  root : Option.Rel (Router.Simulates R) site.root site'.root
  errorPage : ∀ status, (site.errorPage status).Simulates R (site'.errorPage status)
  room_eq : site.room = site'.room

/-- The pages are the same when they are included from related states. -/
def PagesSimulate (R : State ν → State μ → Prop)
    (page : String → State ν → Except Failure Status × State ν)
    (page' : String → State μ → Except Failure Status × State μ) : Prop :=
  ∀ path {s t}, R s t → Answers R (page path s) (page' path t)

variable {R : State ν → State μ → Prop} {P : Place → Place → Prop} {site : Site ν}
  {site' : Site μ} {page : String → State ν → Except Failure Status × State ν}
  {page' : String → State μ → Except Failure Status × State μ}

/-- What callbacks ask is answered alike where pages are the same. -/
theorem Simulates.hostBy (hR : Simulation R P) (hsite : site.Simulates R site')
    (hpage : PagesSimulate R page page') (room : Nat) :
    (site.hostBy page room).Simulates R (site'.hostBy page' room) := by
  refine ⟨fun failure status s t h => ?_, hpage⟩
  induction room generalizing failure status s t with
  | zero => exact hR.overflow (hR.record h failure)
  | succ room ih =>
    have hnested : (site.hostBy page room).Simulates R (site'.hostBy page' room) :=
      ⟨fun failure status s t => ih failure status s t, hpage⟩
    have herror : (site.errorPage status).Simulates R (site'.errorPage status) :=
      hsite.errorPage status
    exact (herror.runAlone hnested (hR.record h failure)).2

theorem Simulates.pagesBy (hR : Simulation R P) (hsite : site.Simulates R site')
    (hpage : PagesSimulate R page page') :
    PagesSimulate R (site.pageBy page) (site'.pageBy page') := by
  intro path s t h
  have hroot := hsite.root
  unfold Site.pageBy
  generalize site.root = root at hroot ⊢
  generalize site'.root = root' at hroot ⊢
  cases hroot with
  | none => exact ⟨rfl, h⟩
  | some hrouter =>
    dsimp only
    rw [← hR.includeRequest_eq h]
    cases s.context.includeRequest path with
    | error cause => exact ⟨rfl, h⟩
    | ok request =>
      have hhost := hsite.hostBy hR hpage (site.room + 1)
      have hfinal := hhost.settle (hrouter.dispatch hR hhost (Context.includeTarget path).1
        (hR.child h request))
      dsimp only
      rw [← hsite.room_eq, ← hR.response_eq hfinal]
      exact ⟨rfl, hR.resume h hfinal _⟩

theorem Simulates.pages (hR : Simulation R P) (hsite : site.Simulates R site') (levels : Nat) :
    PagesSimulate R (site.page levels) (site'.page levels) := by
  induction levels with
  | zero =>
    intro path s t h
    have hroot := hsite.root
    unfold Site.page
    generalize site.root = root at hroot ⊢
    generalize site'.root = root' at hroot ⊢
    cases hroot with
    | none => exact ⟨rfl, h⟩
    | some _ => exact ⟨rfl, h⟩
  | succ levels ih =>
    rw [page_succ, page_succ]
    exact hsite.pagesBy hR ih

end Site

/-! ## Routers with other callbacks -/

section Map

variable (f : {role : Role} → Callback ν role → Callback μ role)

def Guard.map (g : Guard ν) : Guard μ := { pattern := g.pattern, callback := f g.callback }

mutual

def Route.map : Route ν → Route μ
  | .page pattern handlers => .page pattern (handlers.map f)
  | .mount pattern filters routes =>
    .mount pattern (filters.map fun g => g.map f) (Route.mapAll routes)

def Route.mapAll : List (Route ν) → List (Route μ)
  | [] => []
  | route :: rest => Route.map route :: Route.mapAll rest

end

/-- The router with every callback replaced. -/
def Router.map (router : Router ν) : Router μ :=
  { filters := router.filters.map fun g => g.map f, routes := Route.mapAll f router.routes }

mutual

theorem Route.map_id : ∀ route : Route ν, route.map (fun callback => callback) = route
  | .page pattern handlers => by
    rw [Route.map]
    exact congrArg (Route.page pattern)
      (Dict.ext_get? fun key => (Dict.get?_map _ handlers key).trans Option.map_id')
  | .mount pattern filters routes => by
    rw [Route.map, Route.mapAll_id routes]
    exact congrArg (Route.mount pattern · routes) (List.map_id' filters)

theorem Route.mapAll_id : ∀ routes : List (Route ν),
    Route.mapAll (fun callback => callback) routes = routes
  | [] => rfl
  | route :: rest => by rw [Route.mapAll, Route.map_id route, Route.mapAll_id rest]

end

theorem Router.map_id (router : Router ν) : router.map (fun callback => callback) = router := by
  rw [Router.map, Route.mapAll_id]
  exact congrArg (Router.mk · router.routes) (List.map_id' router.filters)

end Map

/-- The property holds of every callback of the router itself. -/
structure Router.Own (p : {role : Role} → Callback ν role → Prop) (router : Router ν) : Prop where
  filters : ∀ g ∈ router.filters, p g.callback
  handlers : ∀ pattern handlers, .page pattern handlers ∈ router.routes →
    ∀ method callback, handlers.get? method = some callback → p callback

/-- Wherever the property holds, a callback does the same as the one that replaces it. -/
def Callback.SimulatesAll (R : State ν → State μ → Prop)
    (p : {role : Role} → Callback ν role → Prop)
    (f : {role : Role} → Callback ν role → Callback μ role) : Prop :=
  ∀ {role : Role} (callback : Callback ν role), p callback → callback.Simulates R (f callback)

section Map

variable {R : State ν → State μ → Prop} {p : {role : Role} → Callback ν role → Prop}
  {f : {role : Role} → Callback ν role → Callback μ role}

theorem Guard.simulates_map (h : Callback.SimulatesAll R p f) {filters : List (Guard ν)}
    (hfilters : ∀ g ∈ filters, p g.callback) :
    List.Forall₂ (Guard.Simulates R) filters (filters.map fun g => g.map f) := by
  induction filters with
  | nil => exact .nil
  | cons g rest ih =>
    obtain ⟨hg, hrest⟩ := List.forall_mem_cons.mp hfilters
    exact .cons ⟨rfl, h g.callback hg⟩ (ih hrest)

mutual

theorem Route.simulates_map (h : Callback.SimulatesAll R p f) :
    ∀ (route : Route ν), (∀ pattern handlers, route = .page pattern handlers →
      ∀ method callback, handlers.get? method = some callback → p callback) →
    route.Everywhere (Router.Own p) → route.Simulates R (route.map f)
  | .page pattern handlers, hpage, _ => by
    rw [Route.map]
    refine .page fun method => ?_
    rw [Dict.get?_map]
    cases hget : handlers.get? method with
    | none => exact .none
    | some callback => exact .some (h callback (hpage pattern handlers rfl method callback hget))
  | .mount pattern filters routes, _, ⟨hown, hbelow⟩ => by
    rw [Route.map]
    exact .mount (Guard.simulates_map h hown.filters)
      (Route.simulatesAll_map h routes hown.handlers hbelow)

theorem Route.simulatesAll_map (h : Callback.SimulatesAll R p f) :
    ∀ (routes : List (Route ν)), (∀ pattern handlers, .page pattern handlers ∈ routes →
      ∀ method callback, handlers.get? method = some callback → p callback) →
    Route.EverywhereAll (Router.Own p) routes → Route.SimulatesAll R routes (Route.mapAll f routes)
  | [], _, _ => .nil
  | route :: rest, hpages, ⟨hroute, hrest⟩ =>
    .cons
      (Route.simulates_map h route
        (fun pattern handlers heq => hpages pattern handlers (heq ▸ List.mem_cons_self)) hroute)
      (Route.simulatesAll_map h rest
        (fun pattern handlers hmem => hpages pattern handlers (List.mem_cons_of_mem _ hmem)) hrest)

end

/-- If a callback does the same as the one that replaces it, so does the router. -/
theorem Router.simulates_map (h : Callback.SimulatesAll R p f) {router : Router ν}
    (hrouter : router.Everywhere (Router.Own p)) :
    router.Simulates R (router.map f) := by
  obtain ⟨hown, hbelow⟩ := hrouter
  exact ⟨Guard.simulates_map h hown.filters, Route.simulatesAll_map h _ hown.handlers hbelow⟩

end Map

end Signpost
