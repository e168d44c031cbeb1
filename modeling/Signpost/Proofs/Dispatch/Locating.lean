import Signpost.Proofs.Dispatch.Opening

/-!
# Events on opened pages

The pages of a request are those that its trail tells of: whatever happens while it is served
happens on a page of `App.openings`, at the depth of its context, and on the router of the page
itself at the path that is listed with it (`App.told_serve`).
-/

namespace Signpost

open Http (Request Status)

variable {ν : Type}

/-- The place is on the page. The router of the page is dispatched with the path of the opening;
routers that are mounted below it have paths of their own. -/
def Opening.Hosts (o : Opening) (place : Place) : Prop :=
  o.context.depth = place.depth ∧ (place.mounts = [] → o.target? = some place.path)

theorem Opening.Hosts.below {o : Opening} {place : Place} (h : o.Hosts place) (i : Nat)
    (suffix : String) : o.Hosts (place.below i suffix) :=
  ⟨h.1, fun hnil => absurd hnil (List.append_ne_nil_of_right_ne_nil _ (List.cons_ne_nil _ _))⟩

/-- The event, if it has a place, happened on one of the pages. -/
def Event.On (e : Event ν) (opened : List Opening) : Prop :=
  ∀ place, e.place? = some place → ∃ o ∈ opened, o.Hosts place

/-- What happened between the states happened on the pages. -/
def State.Told (s : State ν) (opened : List Opening) (t : State ν) : Prop :=
  ∃ es, t.world.trail = es ++ s.world.trail ∧ ∀ e ∈ es, e.On opened

namespace State.Told

variable {s t u : State ν} {opened opened' : List Opening} {own : Opening}

theorem of_eq (h : t.world.trail = s.world.trail) : s.Told opened t :=
  ⟨[], h, fun _ he => absurd he List.not_mem_nil⟩

theorem mono (h : s.Told opened t) (hsub : opened ⊆ opened') : s.Told opened' t := by
  obtain ⟨es, htrail, hon⟩ := h
  refine ⟨es, htrail, fun e he place hplace => ?_⟩
  obtain ⟨o, ho, hhosts⟩ := hon e he place hplace
  exact ⟨o, hsub ho, hhosts⟩

theorem trans (h : s.Told opened t) (h' : t.Told opened u) : s.Told opened u := by
  obtain ⟨es, htrail, hon⟩ := h
  obtain ⟨es', htrail', hon'⟩ := h'
  refine ⟨es' ++ es, by rw [htrail', htrail, List.append_assoc], fun e he => ?_⟩
  rcases List.mem_append.mp he with he | he
  · exact hon' e he
  · exact hon e he

/-- Two parts of what happens on a page, with the pages that each of them opens. -/
theorem append (h : s.Told (own :: opened) t) (h' : t.Told (own :: opened') u) :
    s.Told (own :: (opened ++ opened')) u :=
  (h.mono (List.cons_subset_cons own (List.subset_append_left _ _))).trans
    (h'.mono (List.cons_subset_cons own (List.subset_append_right _ _)))

theorem log {e : Event ν} {place : Place} (hhosts : own.Hosts place)
    (hplace : e.place? = some place) : s.Told (own :: opened) (s.log e) := by
  refine ⟨[e], rfl, fun e' he' place' hplace' => ?_⟩
  obtain rfl := List.mem_singleton.mp he'
  obtain rfl := Option.some.inj (hplace.symm.trans hplace')
  exact ⟨own, List.mem_cons_self, hhosts⟩

theorem note (entry : ν) : s.Told opened (s.log (.note entry)) := by
  refine ⟨[.note entry], rfl, fun e he place hplace => ?_⟩
  obtain rfl := List.mem_singleton.mp he
  cases hplace

end State.Told

/-- The opener tells of all pages on which something happens when the host answers. -/
structure Opener.Tells (opener : Opener ν) (host : Host ν) (own : Opening) : Prop where
  report : ∀ failure status (s : State ν),
    s.Told (own :: opener.report failure status s) (host.report failure status s)
  page : ∀ path (s : State ν), s.Told (own :: opener.page path s) (host.page path s).2

section Tells

variable {host : Host ν} {opener : Opener ν} {own : Opening}

theorem Callback.told_run (h : opener.Tells host own)
    {next : State ν → Except Failure Bool × State ν} {nextOpenings : State ν → List Opening}
    (hnext : ∀ s : State ν, s.Told (own :: nextOpenings s) (next s).2) {role : Role}
    (callback : Callback ν role) (p : Passage) (s : State ν) :
    s.Told (own :: callback.openings host opener next nextOpenings p s)
      (callback.run host next p s).state := by
  fun_induction Callback.run host next callback p s
  case case1 => exact .of_eq rfl
  case case2 ih | case13 ih | case14 ih => exact ih
  case case3 ih | case4 ih | case5 ih | case6 ih => exact State.Told.trans (.of_eq rfl) ih
  case case7 failure status _ _ s ih => exact (h.report failure status s).append ih
  case case8 path k p s answer t hpage ih =>
    have hpaged := h.page path s
    rw [hpage] at hpaged
    simp only [openings, hpage]
    exact hpaged.append ih
  case case9 stop steps k p s world registered hregister ih =>
    have htrail : world.trail = s.world.trail := by
      have hworld := congrArg (fun result => result.1.trail) hregister
      exact hworld.symm
    simp only [openings, hregister]
    exact State.Told.trans (.of_eq htrail) ih
  case case10 entry _ _ s ih =>
    exact (State.Told.note entry).trans ih
  case case11 hcalled ih =>
    simp only [openings, hcalled, if_true]
    exact ih
  case case12 k p s hfirst answer t hanswer ih =>
    have hafter := hnext s
    rw [hanswer] at hafter
    simp only [openings, hfirst, hanswer, Bool.false_eq_true, if_false]
    exact hafter.append ih

theorem Callback.told_runAlone (h : opener.Tells host own) {role : Role}
    (callback : Callback ν role) (s : State ν) :
    s.Told (own :: callback.openingsAlone host opener s) (callback.runAlone host s).2 :=
  callback.told_run h (fun _ => .of_eq rfl) {} s

theorem Guard.told_through (h : opener.Tells host own) {place : Place} (hhosts : own.Hosts place)
    {routes : State ν → Except Failure Bool × State ν} {routeOpenings : State ν → List Opening}
    (hroutes : ∀ s : State ν, s.Told (own :: routeOpenings s) (routes s).2)
    (filters : List (Guard ν)) : ∀ i (s : State ν),
      s.Told (own :: openings host opener place routes routeOpenings i filters s)
        (through host place routes i filters s).2 := by
  induction filters with
  | nil => exact fun _ => hroutes
  | cons g rest ih =>
    intro i s
    rw [openings]
    cases hfit : g.captures? place.path with
    | none =>
      rw [through_cons_of_none hfit]
      exact ih (i + 1) s
    | some captures =>
      rw [through_cons_of_some hfit]
      have hafter (t : State ν) : t.Told
          (own :: openings host opener place routes routeOpenings (i + 1) rest
            (t.log (.descend place i))) (after host place routes i rest t).2 :=
        (State.Told.log hhosts rfl).trans ((ih (i + 1) _).trans (.log hhosts rfl))
      have hran := g.callback.told_run h hafter
        { path := place.path, vars := s.context.vars.merge captures } (s.log (.enter place i))
      exact (State.Told.log hhosts rfl).trans (hran.trans (.log hhosts rfl))

namespace Route

theorem told_serve (h : opener.Tells host own) {place : Place} (hhosts : own.Hosts place) (i : Nat)
    (handlers : Dict (Callback ν .handler)) (s : State ν) :
    s.Told (own :: serveOpenings host opener place i handlers s)
      (serve host place i handlers s).2 := by
  unfold serve serveOpenings
  cases handler? handlers s.context.request.method.name with
  | none => exact (State.Told.log hhosts rfl).trans (h.report _ _ _)
  | some handler =>
    exact (State.Told.log hhosts rfl).trans
      ((handler.told_runAlone h _).trans (.log hhosts rfl))

theorem told_cons {place : Place} {i : Nat} {route : Route ν} {rest : List (Route ν)}
    {s : State ν}
    (hroute : s.Told (own :: openings host opener place i route s)
      (dispatch host place i route s).2)
    (hrest : ∀ t : State ν, t.Told (own :: openingsAll host opener place (i + 1) rest t)
      (dispatchAll host place (i + 1) rest t).2) :
    s.Told (own :: openingsAll host opener place i (route :: rest) s)
      (dispatchAll host place i (route :: rest) s).2 := by
  rw [openingsAll, dispatchAll]
  generalize dispatch host place i route s = answer at hroute ⊢
  rcases answer with ⟨failure | matched, t⟩
  · rwa [List.append_nil]
  · cases matched with
    | true => rwa [List.append_nil]
    | false => exact hroute.append (hrest t)

theorem told_dispatchAll (h : opener.Tells host own) (routes : List (Route ν)) :
    ∀ place, own.Hosts place → ∀ i (s : State ν),
      s.Told (own :: openingsAll host opener place i routes s)
        (dispatchAll host place i routes s).2 := by
  induction routes using Route.list_induction with
  | nil =>
    intro place hhosts i s
    rw [openingsAll, dispatchAll]
    exact .of_eq rfl
  | page pattern handlers rest ih =>
    intro place hhosts i s
    refine told_cons ?_ fun t => ih place hhosts (i + 1) t
    rw [openings, dispatch]
    cases pattern.matchVars? place.path s.context.vars with
    | none => exact .of_eq rfl
    | some vars => exact State.Told.trans (.of_eq rfl) (told_serve h hhosts i handlers _)
  | mount pattern filters routes rest ihbelow ih =>
    intro place hhosts i s
    refine told_cons ?_ fun t => ih place hhosts (i + 1) t
    rw [openings, dispatch]
    cases pattern.matchPrefix? place.path Dict.empty with
    | none => exact .of_eq rfl
    | some found =>
      obtain ⟨suffix, captures⟩ := found
      have hbelow := hhosts.below i suffix
      have hmounted := Guard.told_through h hbelow (fun t => ihbelow _ hbelow 0 t) filters 0
        (s.setVars (s.context.vars.merge captures))
      have hstart : s.Told (own :: _) (Guard.through host (place.below i suffix) _ 0 filters _).2 :=
        State.Told.trans (.of_eq rfl) hmounted
      dsimp only
      generalize Guard.through host (place.below i suffix) _ 0 filters _ = answer at hstart ⊢
      rcases answer with ⟨failure | matched, t⟩
      · exact hstart
      · cases matched with
        | true => exact hstart
        | false =>
          dsimp only
          split
          · exact hstart
          · exact hstart.trans (.of_eq rfl)

end Route

theorem Router.told_dispatch (h : opener.Tells host own) (router : Router ν) (path : String)
    (s : State ν) (hhosts : own.Hosts { depth := s.context.depth, mounts := [], path }) :
    s.Told (own :: router.openings host opener path s) (router.dispatch host path s).2 :=
  Guard.told_through h hhosts (fun t => Route.told_dispatchAll h router.routes _ hhosts 0 t)
    router.filters 0 s

theorem Opener.Tells.settle (h : opener.Tells host own)
    (answer : Except Failure Bool × State ν) :
    answer.2.Told (own :: opener.settle answer) (host.settle answer) := by
  rcases answer with ⟨failure | matched, t⟩
  · exact h.report _ _ _
  · cases matched with
    | true => exact .of_eq rfl
    | false => exact h.report _ _ _

end Tells

namespace Site

theorem openerBy_tells (site : Site ν)
    {page : String → State ν → Except Failure Status × State ν}
    {pageOpenings : String → State ν → List Opening}
    (hpage : ∀ path (s : State ν), s.Told (pageOpenings path s) (page path s).2) (own : Opening)
    (room : Nat) : (site.openerBy page pageOpenings room).Tells (site.hostBy page room) own := by
  have hpaged (path : String) (s : State ν) : s.Told (own :: pageOpenings path s) (page path s).2 :=
    (hpage path s).mono (List.subset_cons_self _ _)
  refine ⟨fun failure status s => ?_, hpaged⟩
  induction room generalizing failure status s with
  | zero => exact .of_eq rfl
  | succ room ih =>
    have hnested : (site.openerBy page pageOpenings room).Tells (site.hostBy page room) own :=
      ⟨ih, hpaged⟩
    have hran := (site.errorPage status).told_runAlone hnested (s.record failure)
    exact State.Told.trans (.of_eq rfl) hran

/-- What happens during an include happens on the pages that it opens. -/
theorem told_page (site : Site ν) (levels : Nat) : ∀ path (s : State ν),
    s.Told (site.pageOpenings levels path s) (site.page levels path s).2 := by
  induction levels with
  | zero =>
    intro path s
    unfold page
    cases site.root <;> exact .of_eq rfl
  | succ levels ih =>
    intro path s
    unfold page pageOpenings
    cases site.root with
    | none => exact .of_eq rfl
    | some root =>
      cases s.context.includeRequest path with
      | error cause => exact .of_eq rfl
      | ok request =>
        let start : State ν := { s with context := s.context.child request }
        let own : Opening :=
          { context := start.context, target? := some (Context.includeTarget path).1 }
        have htells := site.openerBy_tells ih own (site.room + 1)
        have hdispatched := root.told_dispatch htells (Context.includeTarget path).1 start
          ⟨rfl, fun _ => rfl⟩
        exact hdispatched.append (htells.settle _)

end Site

/-- What happens while a request is served happens on the pages of its openings. -/
theorem App.told_serve (app : App ν) (w : World ν) (request : Request) :
    ∃ es, (app.serve w request).2.trail = es ++ w.trail ∧
      ∀ e ∈ es, e.On (app.openings w request) := by
  let start : State ν := { context := app.context request, world := w }
  unfold App.serve App.openings
  dsimp only
  generalize app.routePath? (app.context request).path = target?
  let own : Opening := { context := start.context, target? }
  have htells : ((app.site w).opener start.context).Tells ((app.site w).host start.context) own :=
    (app.site w).openerBy_tells ((app.site w).told_page _) own _
  cases target? with
  | none => exact htells.report .notFound .notFound start
  | some path =>
    have hdispatched := w.published.told_dispatch htells path start ⟨rfl, fun _ => rfl⟩
    exact hdispatched.append (htells.settle _)

end Signpost
