import Signpost.App
import Signpost.Proofs.Dispatch.Run

/-!
# The pages of a request

While a request is served, a context is made for it and one for each page that is included, at any
depth, by a callback of the dispatch or by an error page, however its reports nest. `App.openings`
lists them with the paths that the router is dispatched with. Each of them is that of the request or
one made by an include at a depth below the limit (`App.eq_or_included_of_mem_openings`).
-/

namespace Signpost

open Http (Request Status)

variable {ν : Type}

/-! ## Openings -/

/-- A context that is made, and the path that the router is dispatched with, if it is. -/
structure Opening where
  context : Context
  target? : Option String

/-- The pages that are opened by what a callback asks of its host. -/
structure Opener (ν : Type) where
  report : Failure → Status → State ν → List Opening
  page : String → State ν → List Opening

/-- The pages that a callback opens, and those that what comes after it opens. The states on the way
are those of the run. -/
def Callback.openings (host : Host ν) (opener : Opener ν)
    (next : State ν → Except Failure Bool × State ν) (nextOpenings : State ν → List Opening) :
    {role : Role} → Callback ν role → Passage → State ν → List Opening
  | _, .finish _, _, _ => []
  | _, .look k, p, s => openings host opener next nextOpenings (k s.context) p s
  | _, .setVars vars k, p, s => openings host opener next nextOpenings k p (s.setVars vars)
  | _, .setAttributes attributes k, p, s =>
    openings host opener next nextOpenings k p { s with context := { s.context with attributes } }
  | _, .edit e k, p, s =>
    openings host opener next nextOpenings k p { s with context := s.context.edit e }
  | _, .share change k, p, s =>
    openings host opener next nextOpenings (k s.world.shared) p
      { s with world := { s.world with shared := change s.world.shared } }
  | _, .report failure status k, p, s =>
    opener.report failure status s ++
      openings host opener next nextOpenings k p (host.report failure status s)
  | _, .page path k, p, s =>
    let (answer, t) := host.page path s
    opener.page path s ++ openings host opener next nextOpenings (k answer) p t
  | _, .register stop steps k, p, s =>
    let (world, registered) := s.world.register stop steps
    openings host opener next nextOpenings (k registered) p { s with world }
  | _, .note entry k, p, s => openings host opener next nextOpenings k p (s.log (.note entry))
  | _, .next k, p, s =>
    if p.nextCalled then openings host opener next nextOpenings (k (.error .multipleNext)) p s
    else
      let (answer, t) := next s
      nextOpenings s ++ openings host opener next nextOpenings (k answer) (p.answered answer) t
  | _, .claim k, p, s => openings host opener next nextOpenings k { p with claimed := true } s
  | _, .passage k, p, s => openings host opener next nextOpenings (k p) p s

def Callback.openingsAlone {role : Role} (host : Host ν) (opener : Opener ν)
    (callback : Callback ν role) (s : State ν) : List Opening :=
  callback.openings host opener (fun s => (.ok false, s)) (fun _ => []) {} s

/-- The pages that the filters and the routes open. -/
def Guard.openings (host : Host ν) (opener : Opener ν) (place : Place)
    (routes : State ν → Except Failure Bool × State ν) (routeOpenings : State ν → List Opening) :
    Nat → List (Guard ν) → State ν → List Opening
  | _, [], s => routeOpenings s
  | i, g :: rest, s =>
    match g.captures? place.path with
    | none => openings host opener place routes routeOpenings (i + 1) rest s
    | some captures =>
      g.callback.openings host opener (after host place routes i rest)
        (fun s => openings host opener place routes routeOpenings (i + 1) rest
          (s.log (.descend place i)))
        { path := place.path, vars := s.context.vars.merge captures } (s.log (.enter place i))

namespace Route

def serveOpenings (host : Host ν) (opener : Opener ν) (place : Place) (i : Nat)
    (handlers : Dict (Callback ν .handler)) (s : State ν) : List Opening :=
  match handler? handlers s.context.request.method.name with
  | some handler => handler.openingsAlone host opener (s.log (.serve place i))
  | none => opener.report .methodNotAllowed .methodNotAllowed (s.log (.refuse place i))

mutual

def openings (host : Host ν) (opener : Opener ν) (place : Place) (i : Nat) :
    Route ν → State ν → List Opening
  | .page pattern handlers, s =>
    match pattern.matchVars? place.path s.context.vars with
    | none => []
    | some vars => serveOpenings host opener place i handlers (s.setVars vars)
  | .mount pattern filters routes, s =>
    match pattern.matchPrefix? place.path Dict.empty with
    | none => []
    | some (suffix, captures) =>
      let below := place.below i suffix
      Guard.openings host opener below (fun s => dispatchAll host below 0 routes s)
        (fun s => openingsAll host opener below 0 routes s) 0 filters
        (s.setVars (s.context.vars.merge captures))

/-- The pages that routes open, up to the one that deals with the request. -/
def openingsAll (host : Host ν) (opener : Opener ν) (place : Place) (i : Nat) :
    List (Route ν) → State ν → List Opening
  | [], _ => []
  | route :: rest, s =>
    openings host opener place i route s ++
      match dispatch host place i route s with
      | (.ok false, t) => openingsAll host opener place (i + 1) rest t
      | _ => []

end

end Route

def Router.openings (host : Host ν) (opener : Opener ν) (router : Router ν) (path : String)
    (s : State ν) : List Opening :=
  let place : Place := { depth := s.context.depth, mounts := [], path }
  Guard.openings host opener place (fun s => Route.dispatchAll host place 0 router.routes s)
    (fun s => Route.openingsAll host opener place 0 router.routes s) 0 router.filters s

/-- The pages that are opened where the dispatch did not deal with the request. -/
def Opener.settle (opener : Opener ν) : Except Failure Bool × State ν → List Opening
  | (.ok true, _) => []
  | (.ok false, s) => opener.report .notFound .notFound s
  | (.error failure, s) => opener.report failure .internalError s

namespace Site

/-- The pages that a report opens: those that the error page includes and those that the reports
open which it makes itself. -/
def reportOpenings (site : Site ν) (page : String → State ν → Except Failure Status × State ν)
    (pageOpenings : String → State ν → List Opening) :
    (room : Nat) → Failure → Status → State ν → List Opening
  | 0, _, _, _ => []
  | room + 1, failure, status, s =>
    let opener : Opener ν :=
      { report := site.reportOpenings page pageOpenings room, page := pageOpenings }
    (site.errorPage status).openingsAlone (site.hostBy page room) opener (s.record failure)

/-- The pages that are opened by what callbacks ask of the site, where `pageOpenings` gives those of
an include. -/
def openerBy (site : Site ν) (page : String → State ν → Except Failure Status × State ν)
    (pageOpenings : String → State ν → List Opening) (room : Nat) : Opener ν :=
  { report := site.reportOpenings page pageOpenings room, page := pageOpenings }

/-- The pages that an include opens, the included page first. -/
def pageOpenings (site : Site ν) : (levels : Nat) → String → State ν → List Opening
  | levels, path, s =>
    match site.root, levels with
    | none, _ => []
    | some _, 0 => []
    | some root, levels + 1 =>
      match s.context.includeRequest path with
      | .error _ => []
      | .ok request =>
        let host := site.hostBy (site.page levels) (site.room + 1)
        let opener := site.openerBy (site.page levels) (site.pageOpenings levels) (site.room + 1)
        let start : State ν := { s with context := s.context.child request }
        let target := (Context.includeTarget path).1
        { context := start.context, target? := some target } ::
          (root.openings host opener target start ++
            opener.settle (root.dispatch host target start))

def opener (site : Site ν) (context : Context) : Opener ν :=
  let levels := maxIncludeDepth - context.depth
  site.openerBy (site.page levels) (site.pageOpenings levels) (site.room + 1)

end Site

/-- The contexts that are made while a request is served, that of the request first. -/
def App.openings (app : App ν) (w : World ν) (request : Request) : List Opening :=
  let context := app.context request
  let host := (app.site w).host context
  let opener := (app.site w).opener context
  let start : State ν := { context, world := w }
  { context, target? := app.routePath? context.path } ::
    match app.routePath? context.path with
    | none => opener.report .notFound .notFound start
    | some path =>
      w.published.openings host opener path start ++
        opener.settle (w.published.dispatch host path start)

/-! ## What holds of all that is opened -/

/-- Whatever is asked in a state with the property `I`, which the host keeps, opens only what has
the property `Q`. -/
structure Opener.Meets (opener : Opener ν) (host : Host ν) (I : State ν → Prop)
    (Q : Opening → Prop) : Prop where
  keeps : host.Keeps fun s t => I s → I t
  log : ∀ {s} (e : Event ν), I s → I (s.log e)
  report : ∀ failure status {s}, I s → ∀ o ∈ opener.report failure status s, Q o
  page : ∀ path {s}, I s → ∀ o ∈ opener.page path s, Q o

section Meets

variable {host : Host ν} {opener : Opener ν} {I : State ν → Prop} {Q : Opening → Prop}

theorem Callback.openings_meet (h : opener.Meets host I Q)
    {next : State ν → Except Failure Bool × State ν} {nextOpenings : State ν → List Opening}
    (hnext : ∀ s, I s → I (next s).2) (hopened : ∀ s, I s → ∀ o ∈ nextOpenings s, Q o)
    {role : Role} (callback : Callback ν role) (p : Passage) (s : State ν) (hs : I s) :
    ∀ o ∈ callback.openings host opener next nextOpenings p s, Q o := by
  fun_induction openings host opener next nextOpenings callback p s
  case case1 => exact fun o ho => absurd ho List.not_mem_nil
  case case2 ih | case11 ih | case13 ih | case14 ih => exact ih hs
  case case3 ih => exact ih (h.keeps.effect (.setVars ..) hs)
  case case4 ih => exact ih (h.keeps.effect (.setAttributes ..) hs)
  case case5 ih => exact ih (h.keeps.effect (.edit ..) hs)
  case case6 ih => exact ih (h.keeps.effect (.share ..) hs)
  case case7 failure status k p s ih =>
    refine List.forall_mem_append.mpr ⟨h.report failure status hs, ?_⟩
    exact ih (h.keeps.report failure status s hs)
  case case8 path k p s answer t hpage ih =>
    have hafter := h.keeps.page path s hs
    rw [hpage] at hafter
    exact List.forall_mem_append.mpr ⟨h.page path hs, ih hafter⟩
  case case9 stop steps k p s world registered hregister ih =>
    have hafter := h.keeps.effect (.register s stop steps) hs
    rw [hregister] at hafter
    exact ih hafter
  case case10 ih => exact ih (h.log _ hs)
  case case12 k p s hfirst answer t hanswer ih =>
    have hafter := hnext s hs
    rw [hanswer] at hafter
    exact List.forall_mem_append.mpr ⟨hopened s hs, ih hafter⟩

theorem Callback.openingsAlone_meet (h : opener.Meets host I Q) {role : Role}
    (callback : Callback ν role) {s : State ν} (hs : I s) :
    ∀ o ∈ callback.openingsAlone host opener s, Q o :=
  callback.openings_meet h (fun _ ht => ht) (fun _ _ _ ho => absurd ho List.not_mem_nil) {} s hs

theorem Guard.openings_meet (h : opener.Meets host I Q) (place : Place)
    {routes : State ν → Except Failure Bool × State ν} {routeOpenings : State ν → List Opening}
    (hroutes : ∀ s, I s → I (routes s).2) (hopened : ∀ s, I s → ∀ o ∈ routeOpenings s, Q o)
    (filters : List (Guard ν)) : ∀ i s, I s →
      ∀ o ∈ openings host opener place routes routeOpenings i filters s, Q o := by
  induction filters with
  | nil => exact fun _ s hs => hopened s hs
  | cons g rest ih =>
    intro i s hs
    rw [openings]
    cases hfit : g.captures? place.path with
    | none => exact ih (i + 1) s hs
    | some captures =>
      have hlog (t : State ν) (e : Event ν) : I t → I (t.log e) := h.log e
      have hafter (t : State ν) (ht : I t) : I (after host place routes i rest t).2 :=
        h.log _ (Guard.through_keeps h.keeps hlog place hroutes rest (i + 1) _ (h.log _ ht))
      exact Callback.openings_meet h hafter (fun t ht => ih (i + 1) _ (h.log _ ht)) g.callback _ _
        (h.log _ hs)

namespace Route

theorem serveOpenings_meet (h : opener.Meets host I Q) (place : Place) (i : Nat)
    (handlers : Dict (Callback ν .handler)) {s : State ν} (hs : I s) :
    ∀ o ∈ serveOpenings host opener place i handlers s, Q o := by
  unfold serveOpenings
  split
  · next handler _ => exact handler.openingsAlone_meet h (h.log _ hs)
  · exact h.report _ _ (h.log _ hs)

mutual

theorem openings_meet (h : opener.Meets host I Q) (place : Place) (i : Nat) :
    ∀ (route : Route ν) s, I s → ∀ o ∈ openings host opener place i route s, Q o
  | .page pattern handlers, s, hs => by
    rw [openings]
    cases pattern.matchVars? place.path s.context.vars with
    | none => exact fun o ho => absurd ho List.not_mem_nil
    | some vars => exact serveOpenings_meet h place i handlers (h.keeps.effect (.setVars s vars) hs)
  | .mount pattern filters routes, s, hs => by
    rw [openings]
    cases pattern.matchPrefix? place.path Dict.empty with
    | none => exact fun o ho => absurd ho List.not_mem_nil
    | some found =>
      obtain ⟨suffix, captures⟩ := found
      have hlog (t : State ν) (e : Event ν) : I t → I (t.log e) := h.log e
      let below := place.below i suffix
      exact Guard.openings_meet h below (fun t => dispatchAll_keeps h.keeps hlog below 0 routes t)
        (fun t ht => openingsAll_meet h below 0 routes t ht) filters 0 _
        (h.keeps.effect (.setVars s _) hs)

theorem openingsAll_meet (h : opener.Meets host I Q) (place : Place) (i : Nat) :
    ∀ (routes : List (Route ν)) s, I s → ∀ o ∈ openingsAll host opener place i routes s, Q o
  | [], s, _ => by
    rw [openingsAll]
    exact fun o ho => absurd ho List.not_mem_nil
  | route :: rest, s, hs => by
    rw [openingsAll]
    refine List.forall_mem_append.mpr ⟨openings_meet h place i route s hs, ?_⟩
    have hafter : I (dispatch host place i route s).2 :=
      dispatch_keeps h.keeps (fun _ e => h.log e) place i route s hs
    generalize dispatch host place i route s = answer at hafter ⊢
    match answer with
    | (.ok false, t) => exact openingsAll_meet h place (i + 1) rest t hafter
    | (.ok true, t) | (.error failure, t) => exact fun o ho => absurd ho List.not_mem_nil

end

end Route

theorem Router.openings_meet (h : opener.Meets host I Q) (router : Router ν) (path : String)
    {s : State ν} (hs : I s) : ∀ o ∈ router.openings host opener path s, Q o :=
  Guard.openings_meet h _
    (fun t => Route.dispatchAll_keeps h.keeps (fun _ e => h.log e) _ 0 router.routes t)
    (fun t ht => Route.openingsAll_meet h _ 0 router.routes t ht) router.filters 0 s hs

theorem Opener.Meets.settle (h : opener.Meets host I Q) (answer : Except Failure Bool × State ν)
    (hs : I answer.2) : ∀ o ∈ opener.settle answer, Q o := by
  match answer with
  | (.ok true, s) => exact fun o ho => absurd ho List.not_mem_nil
  | (.ok false, s) | (.error failure, s) => exact h.report _ _ hs

end Meets

/-! ## Included contexts -/

/-- The base path and the depth of the context; nothing on its page changes them. -/
def State.StandsAt (s : State ν) (basePath : String) (depth : Nat) : Prop :=
  s.context.basePath = basePath ∧ s.context.depth = depth

/-- A page that an include opened: what the context is made of, and the path for the router. -/
def Opening.Included (o : Opening) (basePath : String) : Prop :=
  ∃ (c : Context) (argument : String) (request : Request),
    c.basePath = basePath ∧ c.depth < maxIncludeDepth ∧
      c.includeRequest argument = .ok request ∧
      o = { context := c.child request, target? := some (Context.includeTarget argument).1 }

theorem State.lasting_standsAt (basePath : String) (depth : Nat) :
    State.Lasting fun s t : State ν =>
      s.StandsAt basePath depth → t.StandsAt basePath depth where
  refl _ hs := hs
  trans hst htu hs := htu (hst hs)
  effect he hs := by cases he <;> exact hs
  record _ _ hs := hs
  overflow _ hs := hs

namespace Site

variable {site : Site ν} {page : String → State ν → Except Failure Status × State ν}
  {pageOpenings : String → State ν → List Opening} {basePath : String} {depth : Nat}

theorem standsAt_page (site : Site ν) (levels : Nat) (path : String) (s : State ν)
    (hs : s.StandsAt basePath depth) : (site.page levels path s).2.StandsAt basePath depth := by
  rcases site.page_cases levels path s with ⟨failure, heq⟩ | ⟨r, world, heq⟩ <;> rw [heq] <;>
    exact hs

/-- What holds of all pages that are opened by includes holds of those opened by reports. -/
theorem openerBy_meets (site : Site ν) {Q : Opening → Prop}
    (hpage : ∀ path (s : State ν), s.StandsAt basePath depth →
      (page path s).2.StandsAt basePath depth)
    (hopened : ∀ path (s : State ν), s.StandsAt basePath depth → ∀ o ∈ pageOpenings path s, Q o)
    (room : Nat) :
    (site.openerBy page pageOpenings room).Meets (site.hostBy page room)
      (fun s => s.StandsAt basePath depth) Q := by
  have hkeeps := site.keeps_hostBy (State.lasting_standsAt basePath depth) hpage
  refine ⟨hkeeps room, fun _ hs => hs, fun failure status s hs => ?_, fun path s => hopened path s⟩
  induction room generalizing failure status s with
  | zero => exact fun o ho => absurd ho List.not_mem_nil
  | succ room ih =>
    have hnested : (site.openerBy page pageOpenings room).Meets (site.hostBy page room)
        (fun s => s.StandsAt basePath depth) Q :=
      ⟨hkeeps room, fun _ hs => hs, fun failure status s => ih failure status s,
        fun path s => hopened path s⟩
    exact Callback.openingsAlone_meet hnested (site.errorPage status) hs

/-- All that an include opens are included pages, as long as the levels that are left are those that
the depth leaves. -/
theorem included_of_mem_pageOpenings (site : Site ν) (levels : Nat) : ∀ depth path (s : State ν),
    s.StandsAt basePath depth → depth + levels ≤ maxIncludeDepth →
      ∀ o ∈ site.pageOpenings levels path s, o.Included basePath := by
  induction levels with
  | zero =>
    intro depth path s _ _ o ho
    unfold Site.pageOpenings at ho
    cases hroot : site.root <;> simp [hroot] at ho
  | succ levels ih =>
    intro depth path s hs hdepth
    obtain ⟨hbase, hs⟩ := hs
    unfold Site.pageOpenings
    cases site.root with
    | none => exact fun o ho => absurd ho List.not_mem_nil
    | some root =>
      cases hrequest : s.context.includeRequest path with
      | error cause => exact fun o ho => absurd ho List.not_mem_nil
      | ok request =>
        have hmeets := site.openerBy_meets (Q := fun o => o.Included basePath)
          (fun path s hs => site.standsAt_page levels path s hs)
          (fun path s hs => ih (depth + 1) path s hs (by omega)) (site.room + 1)
        let start : State ν := { s with context := s.context.child request }
        have hstart : start.StandsAt basePath (depth + 1) := ⟨hbase, congrArg (· + 1) hs⟩
        refine List.forall_mem_cons.mpr ⟨?_, List.forall_mem_append.mpr ⟨?_, ?_⟩⟩
        · exact ⟨s.context, path, request, hbase, by omega, hrequest, rfl⟩
        · exact root.openings_meet hmeets _ hstart
        · refine hmeets.settle _ ?_
          exact root.dispatch_keeps hmeets.keeps (fun _ e => hmeets.log e) _ _ hstart

theorem opener_meets (site : Site ν) {context : Context}
    (hdepth : context.depth ≤ maxIncludeDepth) :
    (site.opener context).Meets (site.host context)
      (fun s => s.StandsAt context.basePath context.depth) fun o => o.Included context.basePath :=
  site.openerBy_meets (fun path s hs => site.standsAt_page _ path s hs)
    (fun path s hs => site.included_of_mem_pageOpenings _ context.depth path s hs (by omega)) _

end Site

/-- The contexts of a request are its own and those of included pages. -/
theorem App.eq_or_included_of_mem_openings (app : App ν) (w : World ν) (request : Request) :
    ∀ o ∈ app.openings w request,
      o = { context := app.context request
            target? := app.routePath? (app.context request).path } ∨
        o.Included app.basePath := by
  have hdepth : (app.context request).depth ≤ maxIncludeDepth := Nat.zero_le _
  have hmeets := (app.site w).opener_meets hdepth
  let start : State ν := { context := app.context request, world := w }
  have hstart : start.StandsAt app.basePath 0 := ⟨rfl, rfl⟩
  unfold App.openings
  refine List.forall_mem_cons.mpr ⟨.inl rfl, fun o ho => .inr ?_⟩
  split at ho
  · exact hmeets.report _ _ hstart o ho
  · obtain ho | ho := List.mem_append.mp ho
    · exact w.published.openings_meet hmeets _ hstart o ho
    · refine hmeets.settle _ ?_ o ho
      exact w.published.dispatch_keeps hmeets.keeps (fun _ e => hmeets.log e) _ _ hstart

end Signpost
