import Signpost.Proofs.Dispatch.Restoring

/-!
# Filters that are entered

A dispatch calls the filters on its way one after the other, each in a state and with a passage of
its own. `Router.entrances` lists these calls; they are the calls that the trail tells of
(`Router.entered_dispatch`). What a filter sees in its passage are the variables of its context with
its own captures laid over them. If neither filters nor error pages set variables, these are the
variables at the start with the captures of the mounts above laid over them, and of no filter
(`Router.fits_of_mem_entrances`).
-/

namespace Signpost

variable {ν : Type}

/-! ## Entrances -/

/-- The call of a filter. -/
structure Entrance (ν : Type) where
  place : Place
  /-- The position of the filter in its router. -/
  position : Nat
  guard : Guard ν
  /-- What the filter sees of its place in the dispatch. -/
  passage : Passage
  state : State ν

/-- The state in which a callback asks for what comes after it, if it does. -/
def Callback.asked? (host : Host ν) :
    {role : Role} → Callback ν role → Passage → State ν → Option (State ν)
  | _, .finish _, _, _ => none
  | _, .look k, p, s => asked? host (k s.context) p s
  | _, .setVars vars k, p, s => asked? host k p (s.setVars vars)
  | _, .setAttributes attributes k, p, s =>
    asked? host k p { s with context := { s.context with attributes } }
  | _, .edit e k, p, s => asked? host k p { s with context := s.context.edit e }
  | _, .share change k, p, s =>
    asked? host (k s.world.shared) p
      { s with world := { s.world with shared := change s.world.shared } }
  | _, .report failure status k, p, s => asked? host k p (host.report failure status s)
  | _, .page path k, p, s =>
    let (answer, s) := host.page path s
    asked? host (k answer) p s
  | _, .register stop steps k, p, s =>
    let (world, registered) := s.world.register stop steps
    asked? host (k registered) p { s with world }
  | _, .note entry k, p, s => asked? host k p (s.log (.note entry))
  | _, .next _, _, s => some s
  | _, .claim k, p, s => asked? host k { p with claimed := true } s
  | _, .passage k, p, s => asked? host (k p) p s

/-- The calls of the filters that a dispatch comes to, and then those of `routeEntrances`. -/
def Guard.entrances (host : Host ν) (place : Place) (routeEntrances : State ν → List (Entrance ν)) :
    Nat → List (Guard ν) → State ν → List (Entrance ν)
  | _, [], s => routeEntrances s
  | i, g :: rest, s =>
    match g.captures? place.path with
    | none => entrances host place routeEntrances (i + 1) rest s
    | some captures =>
      let passage : Passage := { path := place.path, vars := s.context.vars.merge captures }
      { place, position := i, guard := g, passage, state := s } ::
        match g.callback.asked? host passage (s.log (.enter place i)) with
        | none => []
        | some t => entrances host place routeEntrances (i + 1) rest (t.log (.descend place i))

namespace Route

mutual

def entrances (host : Host ν) (place : Place) (i : Nat) : Route ν → State ν → List (Entrance ν)
  | .page _ _, _ => []
  | .mount pattern filters routes, s =>
    match pattern.matchPrefix? place.path Dict.empty with
    | none => []
    | some (suffix, captures) =>
      let below := place.below i suffix
      Guard.entrances host below (fun s => entrancesAll host below 0 routes s) 0 filters
        (s.setVars (s.context.vars.merge captures))

/-- The calls of filters below the routes, up to the route that deals with the request. -/
def entrancesAll (host : Host ν) (place : Place) (i : Nat) :
    List (Route ν) → State ν → List (Entrance ν)
  | [], _ => []
  | route :: rest, s =>
    entrances host place i route s ++
      match dispatch host place i route s with
      | (.ok false, t) => entrancesAll host place (i + 1) rest t
      | _ => []

end

end Route

/-- The calls of filters in a dispatch, in order. -/
def Router.entrances (host : Host ν) (router : Router ν) (path : String) (s : State ν) :
    List (Entrance ν) :=
  let place : Place := { depth := s.context.depth, mounts := [], path }
  Guard.entrances host place (fun s => Route.entrancesAll host place 0 router.routes s) 0
    router.filters s

/-! ## The question of a filter -/

namespace Callback

variable {host : Host ν} {next : State ν → Except Failure Bool × State ν}
  {R : State ν → State ν → Prop}

/-- What a relation kept by the host says about a run, where `asked?` tells whether and in which
state it comes to what is after the callback. -/
def RanBy (next : State ν → Except Failure Bool × State ν) (R : State ν → State ν → Prop)
    (s t : State ν) : Option (State ν) → Prop
  | none => R s t
  | some u => R s u ∧ R (next u).2 t

theorem RanBy.step (h : host.Keeps R) {s t u : State ν} {asked : Option (State ν)} (hst : R s t)
    (ht : RanBy next R t u asked) : RanBy next R s u asked := by
  cases asked with
  | none => exact h.trans hst ht
  | some v => exact ⟨h.trans hst ht.1, ht.2⟩

theorem run_ranBy (h : host.Keeps R) {role : Role} (callback : Callback ν role) (p : Passage)
    (s : State ν) (hp : p.nextCalled = false) :
    RanBy next R s (callback.run host next p s).state (callback.asked? host p s) := by
  fun_induction Callback.run host next callback p s
  case case1 => exact h.refl _
  case case2 ih | case13 ih | case14 ih => exact ih hp
  case case3 ih => exact .step h (h.effect (.setVars ..)) (ih hp)
  case case4 ih => exact .step h (h.effect (.setAttributes ..)) (ih hp)
  case case5 ih => exact .step h (h.effect (.edit ..)) (ih hp)
  case case6 ih => exact .step h (h.effect (.share ..)) (ih hp)
  case case7 failure status _ _ s ih => exact .step h (h.report failure status s) (ih hp)
  case case8 path _ _ s _ _ hpage ih =>
    have hR := h.page path s
    rw [hpage] at hR
    simp only [asked?, hpage]
    exact .step h hR (ih hp)
  case case9 stop steps _ _ s _ _ hregister ih =>
    have hR := h.effect (.register s stop steps)
    rw [hregister] at hR
    simp only [asked?, hregister]
    exact .step h hR (ih hp)
  case case10 ih => exact .step h (h.effect (.note ..)) (ih hp)
  case case11 hcalled _ => simp [hp] at hcalled
  case case12 k p s _ answer t hnext ih =>
    refine ⟨h.refl s, ?_⟩
    -- the filter has asked, so the rest of its run is its own
    have hran : Ran next R (p.answered answer) t ((k answer).run host next (p.answered answer) t) :=
      run_ran h _ _ _
    rw [hnext]
    cases hran with
    | apart hR => exact hR
    | through _ hfirst => cases hfirst

/-- A callback that never sets the variables asks in a state in which they are as it found them. -/
theorem KeepsVars.vars_asked? (hhost : host.KeepsVars) {role : Role} {callback : Callback ν role}
    (h : callback.KeepsVars) (p : Passage) (s : State ν) {t : State ν}
    (hasked : callback.asked? host p s = some t) : t.context.vars = s.context.vars := by
  fun_induction asked? host callback p s
  case case1 => cases hasked
  case case3 => exact absurd h id
  case case7 failure status _ _ s ih => rw [ih h hasked, hhost.report]
  case case8 path _ _ s answer u hpage ih =>
    have hvars := hhost.page path s
    rw [hpage] at hvars
    rw [ih (h answer) hasked, hvars]
  case case9 hregister ih => exact ih (h _) hasked
  case case11 => exact congrArg (·.context.vars) (Option.some.inj hasked).symm
  case case2 ih | case6 ih | case13 ih => exact ih (h _) hasked
  case case4 ih | case5 ih | case10 ih | case12 ih => exact ih h hasked

end Callback

/-! ## What the trail tells -/

/-- The filter that the event says was called. -/
def Event.entered? : Event ν → Option (Place × Nat)
  | .enter place i => some (place, i)
  | _ => none

/-- A part of a run, on a page at the depth, whose events tell of the entrances and of no others. -/
def State.TellsOf (depth : Nat) (s : State ν) (entrances : List (Entrance ν)) (t : State ν) :
    Prop :=
  ∃ es, s.Leads depth es t ∧
    es.filterMap Event.entered? = entrances.map fun e => (e.place, e.position)

section TellsOf

variable {host : Host ν}

theorem Guard.tellsOf_through (place : Place) (h : host.Quiet place.depth)
    {routes : State ν → Except Failure Bool × State ν}
    {routeEntrances : State ν → List (Entrance ν)}
    (hroutes : ∀ s : State ν, s.context.depth = place.depth →
      s.TellsOf place.depth (routeEntrances s) (routes s).2)
    (filters : List (Guard ν)) : ∀ i (s : State ν), s.context.depth = place.depth →
      s.TellsOf place.depth (entrances host place routeEntrances i filters s)
        (through host place routes i filters s).2 := by
  induction filters with
  | nil => exact fun _ => hroutes
  | cons g rest ih =>
    intro i s hs
    rw [entrances]
    cases hfit : g.captures? place.path with
    | none =>
      rw [through_cons_of_none hfit]
      exact ih (i + 1) s hs
    | some captures =>
      rw [through_cons_of_some hfit]
      dsimp only
      have hentered : s.Leads place.depth [.enter place i] (s.log (.enter place i)) :=
        (State.Leads.refl hs).log (Event.isAt_of_place? rfl)
      have hran (p : Passage) (hp : p.nextCalled = false) :
          Callback.RanBy (after host place routes i rest) (Visit.Calm place.depth)
            (s.log (.enter place i))
            (g.callback.run host (after host place routes i rest) p (s.log (.enter place i))).state
            (g.callback.asked? host p (s.log (.enter place i))) :=
        Callback.run_ranBy h.keeps g.callback p _ hp
      replace hran := hran { path := place.path, vars := s.context.vars.merge captures } rfl
      generalize g.callback.run host (after host place routes i rest) _ _ = o at hran ⊢
      generalize g.callback.asked? host _ _ = asked at hran ⊢
      cases asked with
      | none =>
        have hleft := (hentered.trans (hran hentered.right)).log
          (e := .leave place i o.result o.passage.claimed) (Event.isAt_of_place? rfl)
        exact ⟨_, hleft, rfl⟩
      | some t =>
        have hasked := hentered.trans (hran.1 hentered.right)
        have hdescended := hasked.log (e := .descend place i) (Event.isAt_of_place? rfl)
        obtain ⟨es, hleads, htells⟩ := ih (i + 1) (t.log (.descend place i)) hdescended.right
        let answer := (through host place routes (i + 1) rest (t.log (.descend place i))).1
        have hresumed := (hdescended.trans hleads).log (e := .resume place i answer)
          (Event.isAt_of_place? rfl)
        have hleft := (hresumed.trans (hran.2 hresumed.right)).log
          (e := .leave place i o.result o.passage.claimed) (Event.isAt_of_place? rfl)
        refine ⟨_, hleft, ?_⟩
        simp [Event.entered?, List.filterMap_cons, htells]

namespace Route

/-- No filter is called while a page is served. -/
theorem tellsOf_serve (place : Place) (h : host.Quiet place.depth) (i : Nat)
    (handlers : Dict (Callback ν .handler)) {s : State ν} (hs : s.context.depth = place.depth) :
    s.TellsOf place.depth [] (serve host place i handlers s).2 := by
  unfold serve
  split
  · next handler _ =>
    have hcalled : s.Leads place.depth [.serve place i] (s.log (.serve place i)) :=
      (State.Leads.refl hs).log (Event.isAt_of_place? rfl)
    have hran := Callback.runAlone_keeps h.keeps handler (s.log (.serve place i)) hcalled.right
    generalize handler.runAlone host (s.log (.serve place i)) = answer at hran ⊢
    have hserved := (hcalled.trans hran).log (e := .served place i answer.1)
      (Event.isAt_of_place? rfl)
    exact ⟨_, hserved, rfl⟩
  · have hrefused : s.Leads place.depth [.refuse place i] (s.log (.refuse place i)) :=
      (State.Leads.refl hs).log (Event.isAt_of_place? rfl)
    exact ⟨_, hrefused.trans (h.report _ _ _ hrefused.right), rfl⟩

theorem tellsOf_cons {place : Place} {i : Nat} {route : Route ν} {rest : List (Route ν)}
    {s : State ν}
    (hroute : s.TellsOf place.depth (entrances host place i route s)
      (dispatch host place i route s).2)
    (hrest : ∀ s : State ν, s.context.depth = place.depth → s.TellsOf place.depth
      (entrancesAll host place (i + 1) rest s) (dispatchAll host place (i + 1) rest s).2) :
    s.TellsOf place.depth (entrancesAll host place i (route :: rest) s)
      (dispatchAll host place i (route :: rest) s).2 := by
  rw [entrancesAll, dispatchAll]
  generalize dispatch host place i route s = answer at hroute ⊢
  obtain ⟨es, hleads, htells⟩ := hroute
  rcases answer with ⟨failure | matched, t⟩
  · exact ⟨es, hleads, by rw [List.append_nil, htells]⟩
  · cases matched with
    | true => exact ⟨es, hleads, by rw [List.append_nil, htells]⟩
    | false =>
      obtain ⟨es', hleads', htells'⟩ := hrest t hleads.right
      refine ⟨_, hleads.trans hleads', ?_⟩
      rw [List.filterMap_append, List.map_append, htells, htells']

theorem tellsOf_dispatchAll (routes : List (Route ν)) : ∀ (place : Place), host.Quiet place.depth →
    ∀ i (s : State ν), s.context.depth = place.depth → s.TellsOf place.depth
      (entrancesAll host place i routes s) (dispatchAll host place i routes s).2 := by
  induction routes using Route.list_induction with
  | nil =>
    intro place h i s hs
    rw [entrancesAll, dispatchAll]
    exact ⟨[], .refl hs, rfl⟩
  | page pattern handlers rest ih =>
    intro place h i s hs
    refine tellsOf_cons ?_ fun t ht => ih place h (i + 1) t ht
    rw [entrances, dispatch]
    cases pattern.matchVars? place.path s.context.vars with
    | none => exact ⟨[], .refl hs, rfl⟩
    | some vars =>
      obtain ⟨es, hleads, htells⟩ := tellsOf_serve place h i handlers (s := s.setVars vars) hs
      exact ⟨es, ⟨hs, hleads.right, hleads.events⟩, htells⟩
  | mount pattern filters routes rest ihbelow ih =>
    intro place h i s hs
    refine tellsOf_cons ?_ fun t ht => ih place h (i + 1) t ht
    rw [entrances, dispatch]
    cases pattern.matchPrefix? place.path Dict.empty with
    | none => exact ⟨[], .refl hs, rfl⟩
    | some found =>
      obtain ⟨suffix, captures⟩ := found
      obtain ⟨es, hleads, htells⟩ := Guard.tellsOf_through (place.below i suffix) h
        (fun t ht => ihbelow (place.below i suffix) h 0 t ht) filters 0
        (s.setVars (s.context.vars.merge captures)) hs
      have hstart : s.Leads place.depth es _ := ⟨hs, hleads.right, hleads.events⟩
      refine ⟨es, ?_, htells⟩
      dsimp only
      generalize Guard.through host (place.below i suffix) _ 0 filters _ = answer at hstart ⊢
      rcases answer with ⟨failure | matched, t⟩
      · exact hstart
      · cases matched with
        | true => exact hstart
        | false =>
          dsimp only
          split
          · exact hstart
          · exact hstart.of_eq rfl rfl

end Route

/-- The filters that were called on the page, as the trail tells, are those of the entrances. What
happens on included pages is left out. -/
theorem Router.entered_dispatch (router : Router ν) (path : String) (s : State ν)
    (h : host.Quiet s.context.depth) :
    ((router.dispatch host path s).2.world.eventsWithin s.context.depth).filterMap Event.entered? =
      (s.world.eventsWithin s.context.depth).filterMap Event.entered? ++
        (router.entrances host path s).map fun e => (e.place, e.position) := by
  let place : Place := { depth := s.context.depth, mounts := [], path }
  obtain ⟨es, hleads, htells⟩ : s.TellsOf place.depth (router.entrances host path s)
      (router.dispatch host path s).2 :=
    Guard.tellsOf_through place h
      (fun t ht => Route.tellsOf_dispatchAll router.routes place h 0 t ht) router.filters 0 s rfl
  rw [hleads.events, List.filterMap_append, htells]

end TellsOf

/-! ## Trees whose filters leave the variables alone -/

/-- No filter of the router itself sets variables. -/
def Router.FiltersKeepVars (router : Router ν) : Prop := ∀ g ∈ router.filters, g.callback.KeepsVars

/-- So it is in all routers of the tree. -/
abbrev Router.AllKeepVars (router : Router ν) : Prop := router.Everywhere Router.FiltersKeepVars

theorem Router.AllKeepVars.allRestore {router : Router ν} (h : router.AllKeepVars) :
    router.AllRestore :=
  h.below.imp fun _ hbelow _ _ _ hmem => .inr (hbelow.2.of_mem hmem).1

/-- Then a route that does not deal with the request leaves the variables as it found them. -/
theorem Route.spares_dispatch {host : Host ν} (hhost : host.KeepsVars) (place : Place) (i : Nat)
    {route : Route ν} (h : route.Everywhere Router.FiltersKeepVars) :
    Spares (dispatch host place i route) := by
  cases route with
  | page pattern handlers =>
    have hspares : Spares (dispatchSaving host place i (.page pattern handlers)) :=
      spares_page pattern handlers
    intro s hanswer
    have hsaved := hspares s
    rw [dispatchSaving] at hsaved
    exact hsaved hanswer
  | mount pattern filters routes =>
    obtain ⟨hfilters, hroutes⟩ := h
    have hbelow : ({ routes } : Router ν).AllKeepVars :=
      ⟨fun _ hmem => absurd hmem List.not_mem_nil, hroutes⟩
    intro s hanswer
    have hsaved : dispatchSaving host place i (.mount pattern filters routes) s =
        dispatch host place i (.mount pattern filters routes) s :=
      dispatchSaving_mount hhost (.inr hfilters)
        (dispatchAllSaving_eq hhost routes hbelow.allRestore) s
    rw [← hsaved] at hanswer ⊢
    exact spares_mount pattern filters routes s hanswer

/-! ## What filters see -/

/-- Mounts lead from one visit to the other. What they capture, laid over the variables, makes
`seen`. -/
inductive Visit.Descends : Visit ν → Vars → Visit ν → Vars → Prop
  | here (v : Visit ν) (vars : Vars) : Descends v vars v vars
  | mount {v w : Visit ν} {vars seen : Vars} {i : Nat} {pattern : Pattern}
      {filters : List (Guard ν)} {routes : List (Route ν)} {suffix : String} {captures : Vars}
      (hroute : v.router.routes[i]? = some (.mount pattern filters routes))
      (hmount : pattern.matchPrefix? v.place.path Dict.empty = some (suffix, captures))
      (h : Descends ⟨v.place.below i suffix, { filters, routes }⟩ (vars.merge captures) w seen) :
      Descends v vars w seen

namespace Entrance

/-- The filter stands in the router of the visit and sees the variables of its context with its own
captures laid over them. If the run is calm, the variables of the context are the given ones. -/
structure At (e : Entrance ν) (v : Visit ν) (vars : Vars) (calm : Prop) : Prop where
  place_eq : e.place = v.place
  guard_eq : v.router.filters[e.position]? = some e.guard
  passage_eq : ∃ captures, e.guard.captures? e.place.path = some captures ∧
    e.passage = { path := e.place.path, vars := e.state.context.vars.merge captures }
  vars_eq : calm → e.state.context.vars = vars

/-- So it is at a visit to which mounts lead from the given one. -/
def Fits (e : Entrance ν) (v : Visit ν) (vars : Vars) (calm : Prop) : Prop :=
  ∃ w seen, v.Descends vars w seen ∧ e.At w seen calm

theorem Fits.mount {e : Entrance ν} {v : Visit ν} {vars : Vars} {calm : Prop} {i : Nat}
    {pattern : Pattern} {filters : List (Guard ν)} {routes : List (Route ν)} {suffix : String}
    {captures : Vars} (hroute : v.router.routes[i]? = some (.mount pattern filters routes))
    (hmount : pattern.matchPrefix? v.place.path Dict.empty = some (suffix, captures))
    (h : e.Fits ⟨v.place.below i suffix, { filters, routes }⟩ (vars.merge captures) calm) :
    e.Fits v vars calm := by
  obtain ⟨w, seen, hdescends, hat⟩ := h
  exact ⟨w, seen, .mount hroute hmount hdescends, hat⟩

end Entrance

section Fits

variable {host : Host ν} {calm : Prop}

theorem Guard.fits_of_mem_entrances (hhost : calm → host.KeepsVars) {v : Visit ν} {vars : Vars}
    (hfilters : calm → v.router.FiltersKeepVars) {routeEntrances : State ν → List (Entrance ν)}
    (hroutes : ∀ s, (calm → s.context.vars = vars) → ∀ e ∈ routeEntrances s, e.Fits v vars calm)
    (gs : List (Guard ν)) : ∀ i s, v.router.filters.drop i = gs →
      (calm → s.context.vars = vars) →
      ∀ e ∈ entrances host v.place routeEntrances i gs s, e.Fits v vars calm := by
  induction gs with
  | nil => exact fun _ s _ hvars => hroutes s hvars
  | cons g rest ih =>
    intro i s hdrop hvars e he
    obtain ⟨hg, hrest⟩ := getElem?_of_drop_eq_cons hdrop
    rw [entrances] at he
    cases hfit : g.captures? v.place.path with
    | none =>
      rw [hfit] at he
      exact ih (i + 1) s hrest hvars e he
    | some captures =>
      rw [hfit] at he
      obtain rfl | he := List.mem_cons.mp he
      · exact ⟨v, vars, .here v vars, rfl, hg, ⟨captures, hfit, rfl⟩, hvars⟩
      · split at he
        · cases he
        · next t hasked =>
          refine ih (i + 1) _ hrest (fun hcalm => ?_) e he
          have hkeeps := hfilters hcalm g (List.mem_of_getElem? hg)
          have hsame := hkeeps.vars_asked? (hhost hcalm) _ _ hasked
          exact hsame.trans (hvars hcalm)

namespace Route

theorem fits_of_mem_cons (hhost : calm → host.KeepsVars) {v : Visit ν} {vars : Vars} {i : Nat}
    {route : Route ν} {rest : List (Route ν)} {s : State ν}
    (hkeeps : calm → route.Everywhere Router.FiltersKeepVars)
    (hvars : calm → s.context.vars = vars)
    (hroute : ∀ e ∈ entrances host v.place i route s, e.Fits v vars calm)
    (hrest : ∀ s, (calm → s.context.vars = vars) →
      ∀ e ∈ entrancesAll host v.place (i + 1) rest s, e.Fits v vars calm) :
    ∀ e ∈ entrancesAll host v.place i (route :: rest) s, e.Fits v vars calm := by
  intro e he
  rw [entrancesAll] at he
  obtain he | he := List.mem_append.mp he
  · exact hroute e he
  · match hanswer : dispatch host v.place i route s with
    | (.ok false, t) =>
      rw [hanswer] at he
      refine hrest t (fun hcalm => ?_) e he
      have hspares := spares_dispatch (hhost hcalm) v.place i (hkeeps hcalm) s
      rw [hanswer] at hspares
      exact (hspares rfl).trans (hvars hcalm)
    | (.ok true, t) | (.error failure, t) =>
      rw [hanswer] at he
      cases he

theorem fits_of_mem_entrancesAll (hhost : calm → host.KeepsVars) (routes : List (Route ν)) :
    (calm → EverywhereAll Router.FiltersKeepVars routes) → ∀ (v : Visit ν) vars i s,
      v.router.routes.drop i = routes → (calm → s.context.vars = vars) →
      ∀ e ∈ entrancesAll host v.place i routes s, e.Fits v vars calm := by
  induction routes using Route.list_induction with
  | nil =>
    intro _ v vars i s _ _ e he
    rw [entrancesAll] at he
    cases he
  | page pattern handlers rest ih =>
    intro hkeeps v vars i s hdrop hvars
    obtain ⟨-, hrest⟩ := getElem?_of_drop_eq_cons hdrop
    refine fits_of_mem_cons hhost (fun hcalm => (hkeeps hcalm).1) hvars ?_ fun t ht =>
      ih (fun hcalm => (hkeeps hcalm).2) v vars (i + 1) t hrest ht
    rw [entrances]
    exact fun e he => absurd he List.not_mem_nil
  | mount pattern filters routes rest ihbelow ih =>
    intro hkeeps v vars i s hdrop hvars
    obtain ⟨hroute, hrest⟩ := getElem?_of_drop_eq_cons hdrop
    refine fits_of_mem_cons hhost (fun hcalm => (hkeeps hcalm).1) hvars ?_ fun t ht =>
      ih (fun hcalm => (hkeeps hcalm).2) v vars (i + 1) t hrest ht
    intro e he
    rw [entrances] at he
    cases hmount : pattern.matchPrefix? v.place.path Dict.empty with
    | none =>
      rw [hmount] at he
      cases he
    | some found =>
      obtain ⟨suffix, captures⟩ := found
      rw [hmount] at he
      let w : Visit ν := ⟨v.place.below i suffix, { filters, routes }⟩
      refine .mount hroute hmount (Guard.fits_of_mem_entrances (v := w) hhost
        (fun hcalm => (hkeeps hcalm).1.1) (fun t ht => ?_) filters 0 _ rfl (fun hcalm => ?_) e he)
      · exact ihbelow (fun hcalm => (hkeeps hcalm).1.2) w _ 0 t rfl ht
      · exact congrArg (fun vars : Vars => vars.merge captures) (hvars hcalm)

end Route

/-- Each filter that a dispatch calls sees the variables of its context with its own captures laid
over them. If the filters and the host leave the variables alone, those of the context are the ones
at the start with the captures of the mounts above. -/
theorem Router.fits_of_mem_entrances (host : Host ν) (router : Router ν) (path : String)
    (s : State ν) : ∀ e ∈ router.entrances host path s,
      e.Fits ⟨{ depth := s.context.depth, mounts := [], path }, router⟩ s.context.vars
        (host.KeepsVars ∧ router.AllKeepVars) := by
  let v : Visit ν := ⟨{ depth := s.context.depth, mounts := [], path }, router⟩
  exact Guard.fits_of_mem_entrances (v := v) And.left (fun hcalm => hcalm.2.1)
    (fun t ht => Route.fits_of_mem_entrancesAll And.left router.routes (fun hcalm => hcalm.2.2) v _
      0 t rfl ht) router.filters 0 s rfl fun _ => rfl

end Fits

end Signpost
