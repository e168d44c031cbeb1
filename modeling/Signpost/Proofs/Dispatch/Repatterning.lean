import Signpost.Proofs.Dispatch.Entering
import Signpost.Proofs.Dispatch.Simulation
import Signpost.Proofs.Pattern.Language
import Signpost.Proofs.Registration.Steps
import Signpost.App

/-!
# What filters capture is their own

The captures of a filter go into its passage and nowhere else. So the pattern of a filter may be
replaced by any other that is for the same paths (`Router.Repatterned`): if the filter does not look
at the variables of its passage (`Callback.IgnoresVars`), nothing else can tell, neither in a
dispatch (`Router.Repatterned.dispatch_eq`), nor on included pages (`Router.Repatterned.host_eq`),
nor in a whole request, after which the published router is again repatterned
(`Router.Repatterned.serve`).
-/

namespace Signpost

open Http (Request Response Status)

variable {ν : Type}

/-! ## Callbacks that do not look -/

namespace Callback

/-- Wherever the callback looks at its passage, it goes on in the same way whatever the variables
of the passage are. -/
def IgnoresVars : {role : Role} → Callback ν role → Prop
  | _, .finish _ => True
  | _, .look k => ∀ c, (k c).IgnoresVars
  | _, .setVars _ k => k.IgnoresVars
  | _, .setAttributes _ k => k.IgnoresVars
  | _, .edit _ k => k.IgnoresVars
  | _, .share _ k => ∀ shared, (k shared).IgnoresVars
  | _, .report _ _ k => k.IgnoresVars
  | _, .page _ k => ∀ answer, (k answer).IgnoresVars
  | _, .register _ _ k => ∀ registered, (k registered).IgnoresVars
  | _, .note _ k => k.IgnoresVars
  | _, .next k => ∀ answer, (k answer).IgnoresVars
  | _, .claim k => k.IgnoresVars
  | _, .passage k => (∀ p vars, k { p with vars } = k p) ∧ ∀ p, (k p).IgnoresVars

/-- With other variables in its passage, such a callback runs as before, and leaves them there. -/
theorem IgnoresVars.run_eq (host : Host ν) (next : State ν → Except Failure Bool × State ν)
    {role : Role} {callback : Callback ν role} (h : callback.IgnoresVars) (p : Passage)
    (vars : Vars) (s : State ν) :
    callback.run host next { p with vars } s =
      let o := callback.run host next p s
      { o with passage := { o.passage with vars } } := by
  fun_induction Callback.run host next callback p s
  case case1 => rfl
  case case2 k p s ih => exact ih (h s.context)
  case case3 ih | case4 ih | case5 ih | case7 ih | case10 ih | case13 ih => exact ih h
  case case6 ih => exact ih (h _)
  case case8 path k p s answer t hpage ih =>
    rw [run]
    simp only [hpage]
    exact ih (h answer)
  case case9 stop steps k p s world registered hregister ih =>
    rw [run]
    simp only [hregister]
    exact ih (h registered)
  case case11 k p s hcalled ih =>
    rw [run, if_pos hcalled]
    exact ih (h _)
  case case12 k p s hfirst answer t hanswer ih =>
    rw [run, if_neg hfirst]
    simp only [hanswer]
    exact ih (h answer)
  case case14 k p s ih =>
    rw [run, h.1 p vars]
    exact ih (h.2 p)

end Callback

/-! ## Other patterns -/

/-- The filters are the same but for their patterns. These are for the same paths, and if they are
not the same, the filter does not look at what they capture. -/
structure Guard.Repatterned (g g' : Guard ν) : Prop where
  callback_eq : g'.callback = g.callback
  applies_eq : ∀ path, g'.applies path = g.applies path
  ignores : g'.pattern = g.pattern ∨ g.callback.IgnoresVars

mutual

/-- The routes are the same but for the patterns of filters below them. -/
inductive Route.Repatterned : Route ν → Route ν → Prop
  | page (pattern : Pattern) (handlers : Dict (Callback ν .handler)) :
      Repatterned (.page pattern handlers) (.page pattern handlers)
  | mount {pattern : Pattern} {filters filters' : List (Guard ν)} {routes routes' : List (Route ν)}
      (hfilters : List.Forall₂ Guard.Repatterned filters filters')
      (hroutes : Route.RepatternedAll routes routes') :
      Repatterned (.mount pattern filters routes) (.mount pattern filters' routes')

inductive Route.RepatternedAll : List (Route ν) → List (Route ν) → Prop
  | nil : RepatternedAll [] []
  | cons {route route' : Route ν} {rest rest' : List (Route ν)}
      (hroute : Route.Repatterned route route') (hrest : Route.RepatternedAll rest rest') :
      RepatternedAll (route :: rest) (route' :: rest')

end

/-- The routers are the same but for the patterns of filters, anywhere in the tree. -/
structure Router.Repatterned (router router' : Router ν) : Prop where
  filters : List.Forall₂ Guard.Repatterned router.filters router'.filters
  routes : Route.RepatternedAll router.routes router'.routes

/-! ## Dispatch -/

namespace Guard

variable {host : Host ν} {place : Place} {routes : State ν → Except Failure Bool × State ν}

theorem Repatterned.refl (g : Guard ν) : g.Repatterned g := ⟨rfl, fun _ => rfl, .inl rfl⟩

/-- The filter runs as before: what it captures is seen by nothing but itself. -/
theorem Repatterned.run_eq (host : Host ν) {g g' : Guard ν} (h : g.Repatterned g')
    {captures captures' : Vars} (hfit : g.captures? place.path = some captures)
    (hfit' : g'.captures? place.path = some captures')
    (next : State ν → Except Failure Bool × State ν) (vars : Vars) (s : State ν) :
    let o := g.callback.run host next { path := place.path, vars := vars.merge captures } s
    let o' := g'.callback.run host next { path := place.path, vars := vars.merge captures' } s
    o'.result = o.result ∧ o'.state = o.state ∧ o'.passage.handled = o.passage.handled ∧
      o'.passage.claimed = o.passage.claimed := by
  rw [h.callback_eq]
  obtain hpattern | hignores := h.ignores
  · have hsame : g'.captures? place.path = g.captures? place.path := by
      rw [captures?, captures?, hpattern]
    rw [hfit, hfit'] at hsame
    obtain rfl := Option.some.inj hsame
    exact ⟨rfl, rfl, rfl, rfl⟩
  · have hrun := hignores.run_eq host next { path := place.path, vars := vars.merge captures }
      (vars.merge captures') s
    dsimp only at hrun ⊢
    rw [hrun]
    exact ⟨rfl, rfl, rfl, rfl⟩

theorem through_eq {filters filters' : List (Guard ν)}
    (h : List.Forall₂ Repatterned filters filters') : ∀ i s,
      through host place routes i filters' s = through host place routes i filters s := by
  induction h with
  | nil => exact fun _ _ => rfl
  | @cons g g' rest rest' hg _ ih =>
    intro i s
    have happlies := hg.applies_eq place.path
    cases hfit : g.captures? place.path with
    | none =>
      rw [captures?_eq_none_iff.mp hfit] at happlies
      rw [through_cons_of_none hfit, through_cons_of_none (captures?_eq_none_iff.mpr happlies)]
      exact ih (i + 1) s
    | some captures =>
      rw [applies_of_captures? hfit] at happlies
      obtain ⟨captures', hfit'⟩ : ∃ captures', g'.captures? place.path = some captures' := by
        cases hfit' : g'.captures? place.path with
        | none =>
          rw [captures?_eq_none_iff.mp hfit'] at happlies
          cases happlies
        | some captures' => exact ⟨captures', rfl⟩
      have hafter : after host place routes i rest' = after host place routes i rest := by
        funext t
        rw [after, after, ih]
      obtain ⟨hresult, hstate, hhandled, hclaimed⟩ := hg.run_eq host hfit hfit'
        (after host place routes i rest) s.context.vars (s.log (.enter place i))
      rw [through_cons_of_some hfit, through_cons_of_some hfit', hafter]
      dsimp only
      rw [hresult, hstate, hhandled, hclaimed]

end Guard

namespace Route

variable {host : Host ν}

mutual

theorem dispatch_eq (place : Place) (i : Nat) {route route' : Route ν} (s : State ν) :
    route.Repatterned route' → dispatch host place i route' s = dispatch host place i route s
  | .page _ _ => rfl
  | @Repatterned.mount _ pattern filters filters' routes routes' hfilters hroutes => by
    have hbelow (below : Place) : (fun s => dispatchAll host below 0 routes' s) =
        fun s => dispatchAll host below 0 routes s :=
      funext fun s => dispatchAll_eq below 0 s hroutes
    rw [dispatch, dispatch]
    simp only [hbelow, Guard.through_eq hfilters]

theorem dispatchAll_eq (place : Place) (i : Nat) {routes routes' : List (Route ν)} (s : State ν) :
    RepatternedAll routes routes' →
      dispatchAll host place i routes' s = dispatchAll host place i routes s
  | .nil => rfl
  | .cons hroute hrest => by
    rw [dispatchAll, dispatchAll, dispatch_eq place i s hroute]
    split
    · exact dispatchAll_eq place (i + 1) _ hrest
    · rfl

end

mutual

theorem Repatterned.refl : ∀ route : Route ν, route.Repatterned route
  | .page pattern handlers => .page pattern handlers
  | .mount _ _ routes =>
    .mount (List.forall₂_same.mpr fun g _ => .refl g) (RepatternedAll.refl routes)

theorem RepatternedAll.refl : ∀ routes : List (Route ν), RepatternedAll routes routes
  | [] => .nil
  | route :: rest => .cons (Repatterned.refl route) (RepatternedAll.refl rest)

end

end Route

namespace Router.Repatterned

variable {router router' : Router ν}

theorem refl (router : Router ν) : router.Repatterned router :=
  ⟨List.forall₂_same.mpr fun g _ => .refl g, .refl router.routes⟩

/-- A dispatch is the same: it gives the same answer and leaves the same context and world. -/
theorem dispatch_eq (h : router.Repatterned router') (host : Host ν) (path : String)
    (s : State ν) : router'.dispatch host path s = router.dispatch host path s := by
  have hroutes (place : Place) : (fun s => Route.dispatchAll host place 0 router'.routes s) =
      fun s => Route.dispatchAll host place 0 router.routes s :=
    funext fun s => Route.dispatchAll_eq place 0 s h.routes
  unfold dispatch
  simp only [hroutes, Guard.through_eq h.filters]

end Router.Repatterned

namespace Site

/-- Where the pages are given, what callbacks ask depends on the error page alone. -/
theorem hostBy_congr (site site' : Site ν) (h : site.errorPage = site'.errorPage)
    (page : String → State ν → Except Failure Status × State ν) (room : Nat) :
    site.hostBy page room = site'.hostBy page room := by
  suffices hreport : site.reportBy page room = site'.reportBy page room by
    rw [hostBy, hostBy, hreport]
  induction room with
  | zero => rfl
  | succ room ih =>
    funext failure status s
    rw [reportBy, reportBy, ih, h]

theorem page_eq_of_repatterned {router router' : Router ν} (h : router.Repatterned router')
    (errorPage : ErrorPage ν) (room levels : Nat) :
    page { root := some router', errorPage, room } levels =
      page { root := some router, errorPage, room } levels := by
  induction levels with
  | zero => rfl
  | succ levels ih =>
    rw [page_succ, page_succ, ih]
    funext path s
    unfold pageBy
    let site : Site ν := { root := some router, errorPage, room }
    let site' : Site ν := { root := some router', errorPage, room }
    have hhost : site'.hostBy (site.page levels) (room + 1) =
        site.hostBy (site.page levels) (room + 1) := hostBy_congr site' site rfl _ _
    simp only [site, site'] at hhost
    simp only [h.dispatch_eq, hhost]

end Site

/-- Pages and reports are the same if all starts from the repatterned router. -/
theorem Router.Repatterned.host_eq {router router' : Router ν} (h : router.Repatterned router')
    (errorPage : ErrorPage ν) (room : Nat) (context : Context) :
    Site.host { root := some router', errorPage, room } context =
      Site.host { root := some router, errorPage, room } context := by
  unfold Site.host
  rw [Site.page_eq_of_repatterned h]
  exact Site.hostBy_congr { root := some router', errorPage, room }
    { root := some router, errorPage, room } rfl _ _

/-! ## Registration -/

/-- Both are refused for the same fault, or both succeed with related results. -/
inductive Agree {α β : Type} (R : α → β → Prop) :
    Except RegistrationFault α → Except RegistrationFault β → Prop
  | error (fault : RegistrationFault) : Agree R (.error fault) (.error fault)
  | ok {a : α} {b : β} (h : R a b) : Agree R (.ok a) (.ok b)

theorem Agree.map {α β γ δ : Type} {R : α → β → Prop} {S : γ → δ → Prop} {f : α → γ} {g : β → δ}
    (hmap : ∀ {a b}, R a b → S (f a) (g b)) {x : Except RegistrationFault α}
    {y : Except RegistrationFault β} (h : Agree R x y) : Agree S (x.map f) (y.map g) := by
  cases h with
  | error fault => exact .error fault
  | ok h => exact .ok (hmap h)

theorem Agree.refl {α : Type} {R : α → α → Prop} (hR : ∀ a, R a a)
    (x : Except RegistrationFault α) : Agree R x x := by
  cases x with
  | error fault => exact .error fault
  | ok a => exact .ok (hR a)

namespace Route

theorem RepatternedAll.length_eq {routes routes' : List (Route ν)} :
    RepatternedAll routes routes' → routes'.length = routes.length
  | .nil => rfl
  | .cons _ hrest => congrArg (· + 1) hrest.length_eq

theorem RepatternedAll.append {more more' : List (Route ν)} (hmore : RepatternedAll more more') :
    ∀ {routes routes' : List (Route ν)}, RepatternedAll routes routes' →
      RepatternedAll (routes ++ more) (routes' ++ more')
  | _, _, .nil => hmore
  | _, _, .cons hroute hrest => .cons hroute (hmore.append hrest)

theorem RepatternedAll.rebind_cons (spec : RouteSpec) (callback : Callback ν .handler)
    {route route' : Route ν} {rest rest' : List (Route ν)} (hroute : route.Repatterned route')
    (hrest : Option.Rel (Agree RepatternedAll) (rebind spec callback rest)
      (rebind spec callback rest')) :
    Option.Rel (Agree RepatternedAll) ((rebind spec callback rest).map (·.map (route :: ·)))
      ((rebind spec callback rest').map (·.map (route' :: ·))) := by
  generalize rebind spec callback rest = bound at hrest ⊢
  generalize rebind spec callback rest' = bound' at hrest ⊢
  cases hrest with
  | none => exact .none
  | some hagree => exact .some (hagree.map fun h => .cons hroute h)

theorem RepatternedAll.rebind (spec : RouteSpec) (callback : Callback ν .handler)
    {routes routes' : List (Route ν)} (h : RepatternedAll routes routes') :
    Option.Rel (Agree RepatternedAll) (Route.rebind spec callback routes)
      (Route.rebind spec callback routes') := by
  induction routes using Route.list_induction generalizing routes' with
  | nil =>
    cases h
    exact .none
  | page pattern handlers rest ih =>
    rcases h with _ | ⟨hroute, hrest⟩
    cases hroute
    rw [Route.rebind, Route.rebind]
    split
    · refine .some ((Agree.refl (R := Eq) (fun _ => rfl) _).map ?_)
      rintro bound _ rfl
      exact .cons (.page pattern bound) hrest
    · exact rebind_cons spec callback (.page pattern handlers) (ih hrest)
  | mount pattern filters routes rest _ ih =>
    rcases h with _ | ⟨hroute, hrest⟩
    cases hroute with
    | mount hfilters hroutes =>
      rw [Route.rebind, Route.rebind]
      exact rebind_cons spec callback (.mount hfilters hroutes) (ih hrest)

end Route

namespace Router.Repatterned

variable {router router' below below' : Router ν}

theorem handle (h : router.Repatterned router') (route : String) (callback : Callback ν .handler) :
    Agree Repatterned (router.handle route callback) (router'.handle route callback) := by
  unfold Router.handle
  dsimp only
  have hrebind := h.routes.rebind (RouteSpec.parse route) callback
  generalize Route.rebind (RouteSpec.parse route) callback router.routes = bound at hrebind ⊢
  generalize Route.rebind (RouteSpec.parse route) callback router'.routes = bound' at hrebind ⊢
  cases hrebind with
  | some hagree => exact hagree.map fun hroutes => ⟨h.filters, hroutes⟩
  | none =>
    refine (Agree.refl (R := Eq) (fun _ => rfl) _).map ?_
    rintro created _ rfl
    exact ⟨h.filters, Route.RepatternedAll.append (.refl [created]) h.routes⟩

theorem filter (h : router.Repatterned router') (pattern : String)
    (callback : Callback ν .filter) :
    Agree Repatterned (router.filter pattern callback) (router'.filter pattern callback) := by
  have hadd (pattern : Option Pattern) : Repatterned
      { router with filters := router.filters ++ [{ pattern, callback }] }
      { router' with filters := router'.filters ++ [{ pattern, callback }] } :=
    ⟨List.rel_append h.filters (.cons (.refl _) .nil), h.routes⟩
  unfold Router.filter
  dsimp only
  split
  · exact .ok (hadd none)
  · split
    · exact .error _
    · exact .ok (hadd (some _))

theorem mount (h : router.Repatterned router') (pattern : Pattern)
    (hbelow : below.Repatterned below') :
    (router.mount pattern below).Repatterned (router'.mount pattern below') :=
  ⟨h.filters, Route.RepatternedAll.append (.cons (.mount hbelow.filters hbelow.routes) .nil)
    h.routes⟩

/-- The results are the same, and the routers stay repatterned. -/
def Alongside {α : Type} (a b : Router ν × α) : Prop := b.2 = a.2 ∧ a.1.Repatterned b.1

theorem added_eq (h : router.Repatterned router') :
    Report.added router'.filters.length router'.routes.length =
      .added router.filters.length router.routes.length := by
  rw [h.filters.length_eq, h.routes.length_eq]

theorem Alongside.cons {stop : Bool} {step : Step ν} {steps : List (Step ν)}
    (hstep : Alongside (step.perform stop router) (step.perform stop router'))
    (hsteps : ∀ router router' : Router ν, router.Repatterned router' →
      Alongside (Step.performAll stop steps router) (Step.performAll stop steps router')) :
    Alongside (Step.performAll stop (step :: steps) router)
      (Step.performAll stop (step :: steps) router') := by
  obtain ⟨hreport, hrouter⟩ := hstep
  rw [Step.performAll, Step.performAll]
  generalize step.perform stop router = performed at hreport hrouter ⊢
  generalize step.perform stop router' = performed' at hreport hrouter ⊢
  obtain ⟨after, report⟩ := performed
  obtain ⟨after', _⟩ := performed'
  obtain rfl := hreport
  dsimp only
  split
  · exact ⟨rfl, hrouter⟩
  · obtain ⟨hregistered, hrest⟩ := hsteps after after' hrouter
    exact ⟨congrArg (Registered.cons _) hregistered, hrest⟩

/-- Steps are reported in the same way. -/
theorem performAll (stop : Bool) (steps : List (Step ν)) : ∀ router router' : Router ν,
    router.Repatterned router' →
      Alongside (Step.performAll stop steps router) (Step.performAll stop steps router') := by
  induction steps using Step.list_induction with
  | nil => exact fun _ _ h => ⟨rfl, h⟩
  | handle route callback rest ih =>
    intro router router' h
    refine .cons ?_ ih
    have hagree := h.handle route callback
    rw [Step.perform, Step.perform]
    generalize router.handle route callback = result at hagree ⊢
    generalize router'.handle route callback = result' at hagree ⊢
    cases hagree with
    | error fault => exact ⟨rfl, h⟩
    | ok hafter => exact ⟨hafter.added_eq, hafter⟩
  | filter pattern callback rest ih =>
    intro router router' h
    refine .cons ?_ ih
    have hagree := h.filter pattern callback
    rw [Step.perform, Step.perform]
    generalize router.filter pattern callback = result at hagree ⊢
    generalize router'.filter pattern callback = result' at hagree ⊢
    cases hagree with
    | error fault => exact ⟨rfl, h⟩
    | ok hafter => exact ⟨hafter.added_eq, hafter⟩
  | mount pattern steps rest ihbelow ih =>
    intro router router' h
    refine .cons ?_ ih
    rw [Step.perform, Step.perform]
    split
    · obtain ⟨hregistered, hafter⟩ := ihbelow router router' h
      dsimp only
      rw [hafter.filters.length_eq, hafter.routes.length_eq, hregistered]
      exact ⟨rfl, hafter⟩
    · cases Pattern.compile .mount pattern with
      | error cause => exact ⟨rfl, h⟩
      | ok compiled =>
        have hafter := h.mount compiled (.refl (Step.performAll stop steps {}).1)
        dsimp only
        rw [hafter.filters.length_eq, hafter.routes.length_eq]
        exact ⟨rfl, hafter⟩

end Router.Repatterned

/-! ## Requests -/

/-- The states are the same but for the patterns of filters of the published router. -/
def State.Republished (s t : State ν) : Prop :=
  ∃ published, s.world.published.Repatterned published ∧
    t = { s with world := { s.world with published } }

namespace State.Republished

variable {s t : State ν}

theorem log (h : s.Republished t) (event : Event ν) : (s.log event).Republished (t.log event) := by
  obtain ⟨published, hpublished, rfl⟩ := h
  exact ⟨published, hpublished, rfl⟩

theorem simulation : Simulation (State.Republished (ν := ν)) Eq where
  request_eq := by rintro s _ ⟨_, _, rfl⟩; rfl
  vars_eq := by rintro s _ ⟨_, _, rfl⟩; rfl
  response_eq := by rintro s _ ⟨_, _, rfl⟩; rfl
  includeRequest_eq := by rintro s _ ⟨_, _, rfl⟩ path; rfl
  setVars := by
    rintro s _ ⟨published, hpublished, rfl⟩ vars
    exact ⟨published, hpublished, rfl⟩
  record := by
    rintro s _ ⟨published, hpublished, rfl⟩ failure
    exact ⟨published, hpublished, rfl⟩
  overflow := by
    rintro s _ ⟨published, hpublished, rfl⟩
    exact ⟨published, hpublished, rfl⟩
  log := by
    rintro s t place _ event event' h rfl hevent
    obtain rfl : event = event' := by cases hevent <;> rfl
    exact h.log event
  child := by
    rintro s _ ⟨published, hpublished, rfl⟩ request
    exact ⟨published, hpublished, rfl⟩
  resume := by
    rintro s _ u _ ⟨_, _, rfl⟩ ⟨published, hpublished, rfl⟩ e
    exact ⟨published, hpublished, rfl⟩
  start := by rintro s _ ⟨_, _, rfl⟩ path; rfl
  path_eq := by rintro place _ rfl; rfl
  below := by rintro place _ rfl i path; rfl

/-- A registration makes the same reports. -/
theorem register (h : s.Republished t) (stop : Bool) (steps : List (Step ν)) :
    (t.world.register stop steps).2 = (s.world.register stop steps).2 ∧
      State.Republished { s with world := (s.world.register stop steps).1 }
        { t with world := (t.world.register stop steps).1 } := by
  obtain ⟨published, hpublished, rfl⟩ := h
  obtain ⟨hregistered, hafter⟩ := hpublished.performAll stop steps
  exact ⟨hregistered, _, hafter, rfl⟩

end State.Republished

/-- No callback can tell which patterns the filters of the published router have. -/
theorem Callback.simulates_republished {role : Role} (callback : Callback ν role) :
    callback.Simulates State.Republished callback := by
  intro host host' hhost next next' hnext p s t h
  have hR := State.Republished.simulation (ν := ν)
  fun_induction Callback.run host next callback p s generalizing t
  case case1 => exact ⟨rfl, rfl, h⟩
  case case2 k p s ih =>
    obtain ⟨published, hpublished, rfl⟩ := h
    exact ih ⟨published, hpublished, rfl⟩
  case case3 vars k p s ih => exact ih (hR.setVars h vars)
  case case4 attributes k p s ih =>
    obtain ⟨published, hpublished, rfl⟩ := h
    exact ih ⟨published, hpublished, rfl⟩
  case case5 e k p s ih =>
    obtain ⟨published, hpublished, rfl⟩ := h
    exact ih ⟨published, hpublished, rfl⟩
  case case6 change k p s ih =>
    obtain ⟨published, hpublished, rfl⟩ := h
    exact ih ⟨published, hpublished, rfl⟩
  case case7 failure status k p s ih => exact ih (hhost.report failure status h)
  case case8 path k p s answer s' hpage ih =>
    obtain ⟨hanswer, hstate⟩ := hhost.page path h
    rw [hpage] at hanswer hstate
    rw [run]
    dsimp only
    rw [← hanswer]
    exact ih hstate
  case case9 stop steps k p s world registered hregister ih =>
    obtain ⟨hregistered, hstate⟩ := h.register stop steps
    rw [hregister] at hregistered hstate
    rw [run]
    dsimp only
    rw [hregistered]
    exact ih hstate
  case case10 entry k p s ih => exact ih (h.log _)
  case case11 k p s hcalled ih =>
    rw [run, if_pos hcalled]
    exact ih h
  case case12 k p s hfirst answer s' hanswer ih =>
    obtain ⟨hsame, hstate⟩ := hnext h
    rw [hanswer] at hsame hstate
    rw [run, if_neg hfirst]
    dsimp only
    rw [← hsame]
    exact ih hstate
  case case13 k p s ih => exact ih h
  case case14 k p s ih => exact ih h

theorem Route.everywhereAll_of_forall {P : Router ν → Prop} (h : ∀ router, P router)
    (routes : List (Route ν)) : EverywhereAll P routes := by
  induction routes using Route.list_induction with
  | nil => exact trivial
  | page _ _ _ ih => exact ⟨trivial, ih⟩
  | mount _ _ _ _ ihbelow ih => exact ⟨⟨h _, ihbelow⟩, ih⟩

theorem Router.simulates_republished (router : Router ν) :
    router.Simulates State.Republished router := by
  have hown : router.Everywhere (Router.Own fun _ => True) :=
    ⟨⟨fun _ _ => trivial, fun _ _ _ _ _ _ => trivial⟩,
      Route.everywhereAll_of_forall (fun _ => ⟨fun _ _ => trivial, fun _ _ _ _ _ _ => trivial⟩) _⟩
  have hmap := Router.simulates_map (R := State.Republished) (f := fun callback => callback)
    (fun callback _ => callback.simulates_republished) hown
  rwa [Router.map_id] at hmap

theorem Site.simulates_republished (site : Site ν) : site.Simulates State.Republished site := by
  refine ⟨?_, fun status => (site.errorPage status).simulates_republished, rfl⟩
  cases site.root with
  | none => exact .none
  | some root => exact .some root.simulates_republished

/-- A request is answered in the same way and leaves the same world, but for the patterns of filters
of the published router. -/
theorem Router.Repatterned.serve {router router' : Router ν} (h : router.Repatterned router')
    (app : App ν) (w : World ν) (request : Request) :
    let served := app.serve { w with published := router } request
    let served' := app.serve { w with published := router' } request
    served'.1 = served.1 ∧ ∃ published, served.2.published.Repatterned published ∧
      served'.2 = { served.2 with published } := by
  let site : Site ν := { root := some router, errorPage := app.errorPage, room := app.room }
  let host := site.host (app.context request)
  let start : State ν := { context := app.context request, world := { w with published := router } }
  let start' : State ν :=
    { context := app.context request, world := { w with published := router' } }
  have hR := State.Republished.simulation (ν := ν)
  have hstart : start.Republished start' := ⟨router', h, rfl⟩
  have hhost : host.Simulates State.Republished host :=
    site.simulates_republished.hostBy hR (site.simulates_republished.pages hR _) _
  have hsite : (app.site { w with published := router' }).host (app.context request) = host :=
    h.host_eq app.errorPage app.room (app.context request)
  have hresult {s t : State ν} (hfinal : s.Republished t) :
      t.context.response = s.context.response ∧ ∃ published,
        s.world.published.Repatterned published ∧ t.world = { s.world with published } := by
    obtain ⟨published, hpublished, rfl⟩ := hfinal
    exact ⟨rfl, published, hpublished, rfl⟩
  unfold App.serve
  dsimp only
  rw [hsite]
  cases app.routePath? (app.context request).path with
  | none => exact hresult (hhost.report _ _ hstart)
  | some path =>
    have hanswers := router.simulates_republished.dispatch hR hhost path hstart
    have hfinal := hhost.settle hanswers
    rw [← h.dispatch_eq host path start'] at hfinal
    exact hresult hfinal

/-! ## Filters and their captures -/

namespace Router

/-- A filter that is called sees in its passage the variables of its context with its own captures
laid over them; where no callback sets variables these are the variables at the start with the
captures of the mounts above. And other patterns for the same paths, with other captures, change
nothing but what the passages of these filters hold: if these do not look, every dispatch, page,
report and request goes as before. -/
theorem captures_own (site : Site ν) (router router' : Router ν) (h : router.Repatterned router') :
    (∀ path (s : State ν),
      let start : Visit ν := ⟨{ depth := s.context.depth, mounts := [], path }, router⟩
      let entrances := router.entrances (site.host s.context) path s
      (∀ e ∈ entrances, e.Fits start s.context.vars
        ((∀ status, (site.errorPage status).KeepsVars) ∧ router.AllKeepVars)) ∧
      ((router.dispatch (site.host s.context) path s).2.world.eventsWithin
          s.context.depth).filterMap Event.entered? =
        (s.world.eventsWithin s.context.depth).filterMap Event.entered? ++
          entrances.map fun e => (e.place, e.position)) ∧
    (∀ (host : Host ν) path s, router'.dispatch host path s = router.dispatch host path s) ∧
    (∀ errorPage room context, Site.host { root := some router', errorPage, room } context =
      Site.host { root := some router, errorPage, room } context) ∧
    ∀ (app : App ν) (w : World ν) request,
      let served := app.serve { w with published := router } request
      let served' := app.serve { w with published := router' } request
      served'.1 = served.1 ∧ ∃ published, served.2.published.Repatterned published ∧
        served'.2 = { served.2 with published } := by
  refine ⟨fun path s => ⟨fun e he => ?_, ?_⟩, h.dispatch_eq, h.host_eq, h.serve⟩
  · obtain ⟨v, seen, hdescends, hat⟩ := router.fits_of_mem_entrances _ path s e he
    refine ⟨v, seen, hdescends, hat.place_eq, hat.guard_eq, hat.passage_eq, fun hcalm => ?_⟩
    exact hat.vars_eq ⟨Site.keepsVars_host hcalm.1 s.context, hcalm.2⟩
  · exact router.entered_dispatch path s (site.quiet_host s.context)

/-- A capture and a star are for the same paths. -/
theorem captures_own_star :
    ∃ g g' : Guard Empty, g.pattern.map Pattern.text = some "/\x7ba\x7d" ∧
      g'.pattern.map Pattern.text = some "/*" ∧
      ({ filters := [g] } : Router Empty).Repatterned { filters := [g'] } ∧
      ∀ host path s, ({ filters := [g'] } : Router Empty).dispatch host path s =
        ({ filters := [g] } : Router Empty).dispatch host path s := by
  obtain ⟨p, hp⟩ : ∃ p, Pattern.compile .exact "/\x7ba\x7d" = .ok p :=
    Pattern.exists_compile_of_isSome (by decide +kernel)
  obtain ⟨q, hq⟩ : ∃ q, Pattern.compile .exact "/*" = .ok q :=
    Pattern.exists_compile_of_isSome (by decide +kernel)
  have hstem : Pattern.normalize .exact "/\x7ba\x7d".toList =
      '/' :: '\x7b' :: (['a'] ++ '\x7d' :: []) := by decide
  have hstem' : Pattern.normalize .exact "/*".toList = '/' :: '*' :: [] := by decide
  have hplain : Pattern.Plain [] "/\x7ba\x7d".toList := by
    change Pattern.Plain [] ('/' :: '\x7b' :: (['a'] ++ '\x7d' :: []))
    exact .literal (by decide) (.capture (by decide) (by decide) .nil)
  have hplain' : Pattern.Plain [] "/*".toList := .literal (by decide) (.star .nil)
  have hsame (path : String) : q.isMatch path = p.isMatch path := by
    rw [Bool.eq_iff_iff, Pattern.isMatch_iff_denotes hplain hp,
      Pattern.isMatch_iff_denotes hplain' hq, hstem, hstem']
    have hslash : '/' ≠ '*' ∧ '/' ≠ '\x7b' ∧ '/' ≠ '\x7d' := by decide
    have hname : Pattern.isName ['a'] = true := by decide
    have hlast : ([] : List Char).head? ≠ some '*' := by decide
    simp only [Pattern.denotes_literal_iff hslash, Pattern.denotes_capture_iff hname,
      Pattern.denotes_segment_iff hlast]
  let site : Site Empty := { root := none, errorPage := Callback.plainErrorPage }
  let callback : Callback Empty .filter := .next fun _ => .done
  have hguards : Guard.Repatterned ⟨some p, callback⟩ ⟨some q, callback⟩ :=
    ⟨rfl, hsame, .inr fun _ => trivial⟩
  have hrouters : ({ filters := [⟨some p, callback⟩] } : Router Empty).Repatterned
      { filters := [⟨some q, callback⟩] } :=
    ⟨.cons hguards .nil, .nil⟩
  obtain ⟨-, hdispatch, -, -⟩ := captures_own site _ _ hrouters
  exact ⟨⟨some p, callback⟩, ⟨some q, callback⟩, congrArg some (Pattern.text_of_compile hp),
    congrArg some (Pattern.text_of_compile hq), hrouters, hdispatch⟩

end Router

end Signpost
