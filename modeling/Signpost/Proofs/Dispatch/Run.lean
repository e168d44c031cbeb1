import Signpost.Proofs.Dispatch.Trail
import Signpost.Site

/-!
# The runs of a dispatch

`Visit.Run` says in which orders things can happen while a router is visited: the events on the page
and the answer, filter by filter and route by route, whatever the callbacks do. Every dispatch is
such a run (`Router.runs_dispatch`), so what holds of all runs holds of all dispatches; nothing
about events needs to be read off the dispatcher again. What the host keeps of the state, dispatches
keep (`Router.dispatch_keeps`).
-/

namespace Signpost

variable {ν : Type}

/-- Whether the filter is for the path: it has no pattern, or its pattern matches. -/
def Guard.applies (g : Guard ν) (path : String) : Bool := g.pattern.all (·.isMatch path)

/-! ## Visits -/

/-- A router that a dispatch goes into, and where it stands. -/
structure Visit (ν : Type) where
  place : Place
  router : Router ν

namespace Visit

/-- What a visit has come to. -/
inductive Stage where
  | filter (i : Nat)
  | route (i : Nat)

/-- `v.Mounts w`: a mount of the router leads from the visit `v` to the visit `w`. -/
inductive Mounts (v : Visit ν) : Visit ν → Prop
  | intro {i : Nat} {pattern : Pattern} {filters : List (Guard ν)} {routes : List (Route ν)}
      {suffix : String} {captures : Vars}
      (hroute : v.router.routes[i]? = some (.mount pattern filters routes))
      (hmount : pattern.matchPrefix? v.place.path Dict.empty = some (suffix, captures)) :
      Mounts v ⟨v.place.below i suffix, { filters, routes }⟩

/-- The events on the page and the answer of a visit from a stage on. -/
inductive Run : Visit ν → Stage → List (Event ν) → Except Failure Bool → Prop
  | enough {v : Visit ν} {i : Nat} {es : List (Event ν)} {a : Except Failure Bool}
      (hi : v.router.filters.length ≤ i) (h : Run v (.route 0) es a) : Run v (.filter i) es a
  /-- The filter is not for the path. -/
  | skip {v : Visit ν} {i : Nat} {g : Guard ν} {es : List (Event ν)} {a : Except Failure Bool}
      (hg : v.router.filters[i]? = some g) (hfit : g.applies v.place.path = false)
      (h : Run v (.filter (i + 1)) es a) : Run v (.filter i) es a
  /-- The filter asks for nothing. -/
  | stop {v : Visit ν} {i : Nat} {g : Guard ν} (result : Except Failure Unit) (claimed : Bool)
      (hg : v.router.filters[i]? = some g) (hfit : g.applies v.place.path = true) :
      Run v (.filter i) [.enter v.place i, .leave v.place i result claimed]
        (result.map fun _ => true)
  /-- The filter asks for what comes after it. -/
  | pass {v : Visit ν} {i : Nat} {g : Guard ν} {es : List (Event ν)} {a : Except Failure Bool}
      (result : Except Failure Unit) (claimed : Bool) (hg : v.router.filters[i]? = some g)
      (hfit : g.applies v.place.path = true) (h : Run v (.filter (i + 1)) es a) :
      Run v (.filter i)
        (.enter v.place i :: .descend v.place i ::
          (es ++ [.resume v.place i a, .leave v.place i result claimed]))
        (result.map fun _ => claimed || Passage.matched a)
  | exhausted {v : Visit ν} {i : Nat} (hi : v.router.routes.length ≤ i) :
      Run v (.route i) [] (.ok false)
  /-- The route is not for the path. -/
  | overlook {v : Visit ν} {i : Nat} {pattern : Pattern} {handlers : Dict (Callback ν .handler)}
      {es : List (Event ν)} {a : Except Failure Bool}
      (hroute : v.router.routes[i]? = some (.page pattern handlers))
      (hfit : pattern.isMatch v.place.path = false) (h : Run v (.route (i + 1)) es a) :
      Run v (.route i) es a
  | serve {v : Visit ν} {i : Nat} {pattern : Pattern} {handlers : Dict (Callback ν .handler)}
      (result : Except Failure Unit)
      (hroute : v.router.routes[i]? = some (.page pattern handlers))
      (hfit : pattern.isMatch v.place.path = true) :
      Run v (.route i) [.serve v.place i, .served v.place i result] (result.map fun _ => true)
  | refuse {v : Visit ν} {i : Nat} {pattern : Pattern} {handlers : Dict (Callback ν .handler)}
      (hroute : v.router.routes[i]? = some (.page pattern handlers))
      (hfit : pattern.isMatch v.place.path = true) :
      Run v (.route i) [.refuse v.place i] (.ok true)
  /-- The path does not begin like the mount. -/
  | bypass {v : Visit ν} {i : Nat} {pattern : Pattern} {filters : List (Guard ν)}
      {routes : List (Route ν)} {es : List (Event ν)} {a : Except Failure Bool}
      (hroute : v.router.routes[i]? = some (.mount pattern filters routes))
      (hmount : pattern.matchPrefix? v.place.path Dict.empty = none)
      (h : Run v (.route (i + 1)) es a) : Run v (.route i) es a
  /-- The mount was tried in vain. -/
  | back {v : Visit ν} {i : Nat} {pattern : Pattern} {filters : List (Guard ν)}
      {routes : List (Route ν)} {suffix : String} {captures : Vars} {es es' : List (Event ν)}
      {a : Except Failure Bool}
      (hroute : v.router.routes[i]? = some (.mount pattern filters routes))
      (hmount : pattern.matchPrefix? v.place.path Dict.empty = some (suffix, captures))
      (hbelow : Run ⟨v.place.below i suffix, { filters, routes }⟩ (.filter 0) es (.ok false))
      (h : Run v (.route (i + 1)) es' a) : Run v (.route i) (es ++ es') a
  | decide {v : Visit ν} {i : Nat} {pattern : Pattern} {filters : List (Guard ν)}
      {routes : List (Route ν)} {suffix : String} {captures : Vars} {es : List (Event ν)}
      {a : Except Failure Bool}
      (hroute : v.router.routes[i]? = some (.mount pattern filters routes))
      (hmount : pattern.matchPrefix? v.place.path Dict.empty = some (suffix, captures))
      (ha : a ≠ .ok false)
      (hbelow : Run ⟨v.place.below i suffix, { filters, routes }⟩ (.filter 0) es a) :
      Run v (.route i) es a

end Visit

/-! ## Lists of routes -/

/-- Induction over a list of routes, into the mounts and along the list. -/
@[elab_as_elim]
theorem Route.list_induction {motive : List (Route ν) → Prop} (nil : motive [])
    (page : ∀ pattern handlers rest, motive rest → motive (.page pattern handlers :: rest))
    (mount : ∀ pattern filters routes rest, motive routes → motive rest →
      motive (.mount pattern filters routes :: rest)) :
    ∀ routes, motive routes
  | [] => nil
  | .page pattern handlers :: rest =>
    page pattern handlers rest (Route.list_induction nil page mount rest)
  | .mount pattern filters routes :: rest =>
    mount pattern filters routes rest (Route.list_induction nil page mount routes)
      (Route.list_induction nil page mount rest)

/-! ## Dispatches are runs -/

namespace Pattern

theorem matchVars?_eq_none_iff {p : Pattern} {path : String} {vars : Vars} :
    p.matchVars? path vars = none ↔ p.isMatch path = false := by
  unfold matchVars? isMatch Regex.isMatch
  cases p.regex.captures? path <;> simp

theorem isMatch_of_matchVars? {p : Pattern} {path : String} {vars vars' : Vars}
    (h : p.matchVars? path vars = some vars') : p.isMatch path = true := by
  cases hm : p.isMatch path with
  | true => rfl
  | false => rw [matchVars?_eq_none_iff.mpr hm] at h; cases h

end Pattern

theorem getElem?_of_drop_eq_cons {α : Type} {l rest : List α} {i : Nat} {a : α}
    (h : l.drop i = a :: rest) : l[i]? = some a ∧ l.drop (i + 1) = rest := by
  have hi : l[i]? = (l.drop i)[0]? := by simp
  refine ⟨by rw [hi, h]; rfl, ?_⟩
  rw [← List.drop_drop, h]
  rfl

namespace Guard

theorem captures?_eq_none_iff {g : Guard ν} {path : String} :
    g.captures? path = none ↔ g.applies path = false := by
  unfold captures? applies
  cases g.pattern with
  | none => simp
  | some pattern => exact Pattern.matchVars?_eq_none_iff

theorem applies_of_captures? {g : Guard ν} {path : String} {captures : Vars}
    (h : g.captures? path = some captures) : g.applies path = true := by
  cases ha : g.applies path with
  | true => rfl
  | false => rw [captures?_eq_none_iff.mpr ha] at h; cases h

/-- What comes after the filter at the position `i`, with the events that tell of it. -/
def after (host : Host ν) (place : Place) (routes : State ν → Except Failure Bool × State ν)
    (i : Nat) (rest : List (Guard ν)) (s : State ν) : Except Failure Bool × State ν :=
  let answer := through host place routes (i + 1) rest (s.log (.descend place i))
  (answer.1, answer.2.log (.resume place i answer.1))

variable {host : Host ν} {place : Place} {routes : State ν → Except Failure Bool × State ν}
  {i : Nat} {g : Guard ν} {rest : List (Guard ν)} {s : State ν}

theorem through_cons_of_none (h : g.captures? place.path = none) :
    through host place routes i (g :: rest) s = through host place routes (i + 1) rest s := by
  rw [through, h]

theorem through_cons_of_some {captures : Vars} (h : g.captures? place.path = some captures) :
    through host place routes i (g :: rest) s =
      let o := g.callback.run host (after host place routes i rest)
        { path := place.path, vars := s.context.vars.merge captures } (s.log (.enter place i))
      (o.result.map fun _ => o.passage.handled,
        o.state.log (.leave place i o.result o.passage.claimed)) := by
  rw [through, h]
  rfl

end Guard

namespace Visit

variable {host : Host ν}

/-- `answer` comes about in a run of the visit from the stage on that starts in `s`. -/
def Runs (v : Visit ν) (stage : Stage) (s : State ν)
    (answer : Except Failure Bool × State ν) : Prop :=
  ∃ es, v.Run stage es answer.1 ∧ s.Leads v.place.depth es answer.2

theorem Runs.of_setVars {v : Visit ν} {stage : Stage} {s : State ν} {vars : Vars}
    {answer : Except Failure Bool × State ν} (h : v.Runs stage (s.setVars vars) answer) :
    v.Runs stage s answer := by
  obtain ⟨es, hrun, hleads⟩ := h
  exact ⟨es, hrun, ⟨hleads.left, hleads.right, hleads.events⟩⟩

/-- Before or after an event on the page, nothing else happens there. -/
abbrev Calm (depth : Nat) (s t : State ν) : Prop :=
  s.context.depth = depth → s.Leads depth [] t

/-- A filter that is for the path, from its call to its return. -/
theorem runs_of_ran {v : Visit ν} {i : Nat} {g : Guard ν} {s : State ν} {o : Outcome ν}
    {p : Passage} {next : State ν → Except Failure Bool × State ν}
    (hg : v.router.filters[i]? = some g) (hfit : g.applies v.place.path = true)
    (hs : s.context.depth = v.place.depth) (hp : p.nextCalled = false)
    (hnext : ∀ t, t.context.depth = v.place.depth → ∃ t',
      v.Runs (.filter (i + 1)) (t.log (.descend v.place i)) ((next t).1, t') ∧
      (next t).2 = t'.log (.resume v.place i (next t).1))
    (hran : Callback.Ran next (Calm v.place.depth) p (s.log (.enter v.place i)) o) :
    v.Runs (.filter i) s (o.result.map fun _ => o.passage.handled,
      o.state.log (.leave v.place i o.result o.passage.claimed)) := by
  have hentered : s.Leads v.place.depth [.enter v.place i] (s.log (.enter v.place i)) :=
    (State.Leads.refl hs).log (Event.isAt_of_place? rfl)
  cases hran with
  | apart hR hcalled hmatched =>
    refine ⟨_, ?_, (hentered.trans (hR hentered.right)).log (Event.isAt_of_place? rfl)⟩
    have hhandled : o.passage.handled = true := by simp [Passage.handled, hcalled, hp]
    rw [hhandled]
    exact .stop o.result o.passage.claimed hg hfit
  | through t _ hbefore hafter hcalled hmatched =>
    have htold := hentered.trans (hbefore hentered.right)
    obtain ⟨t', ⟨es, hrun, hleads⟩, heq⟩ := hnext t htold.right
    have hdescended := htold.log (e := .descend v.place i) (Event.isAt_of_place? rfl)
    have hresumed := (hdescended.trans hleads).log (e := .resume v.place i (next t).1)
      (Event.isAt_of_place? rfl)
    rw [← heq] at hresumed
    have hleft := (hresumed.trans (hafter hresumed.right)).log
      (e := .leave v.place i o.result o.passage.claimed) (Event.isAt_of_place? rfl)
    have hhandled : o.passage.handled = (o.passage.claimed || Passage.matched (next t).1) := by
      simp [Passage.handled, hcalled, hmatched]
    rw [hhandled]
    exact ⟨_, .pass o.result o.passage.claimed hg hfit hrun, by simpa using hleft⟩

theorem runs_through (v : Visit ν) (h : host.Quiet v.place.depth)
    {routes : State ν → Except Failure Bool × State ν}
    (hroutes : ∀ s, s.context.depth = v.place.depth → v.Runs (.route 0) s (routes s))
    (gs : List (Guard ν)) : ∀ i s, v.router.filters.drop i = gs →
      s.context.depth = v.place.depth →
      v.Runs (.filter i) s (Guard.through host v.place routes i gs s) := by
  induction gs with
  | nil =>
    intro i s hdrop hs
    obtain ⟨es, hrun, hleads⟩ := hroutes s hs
    exact ⟨es, .enough (by simpa using hdrop) hrun, hleads⟩
  | cons g rest ih =>
    intro i s hdrop hs
    obtain ⟨hg, hrest⟩ := getElem?_of_drop_eq_cons hdrop
    cases hfit : g.captures? v.place.path with
    | none =>
      rw [Guard.through_cons_of_none hfit]
      obtain ⟨es, hrun, hleads⟩ := ih (i + 1) s hrest hs
      exact ⟨es, .skip hg (Guard.captures?_eq_none_iff.mp hfit) hrun, hleads⟩
    | some captures =>
      rw [Guard.through_cons_of_some hfit]
      have happlies := Guard.applies_of_captures? hfit
      refine runs_of_ran hg happlies hs rfl ?_ (Callback.run_ran h.keeps ..)
      intro t ht
      exact ⟨_, ih (i + 1) (t.log (.descend v.place i)) hrest ht, rfl⟩

theorem runs_serve {v : Visit ν} {i : Nat} {pattern : Pattern}
    {handlers : Dict (Callback ν .handler)} {s : State ν} (h : host.Quiet v.place.depth)
    (hroute : v.router.routes[i]? = some (.page pattern handlers))
    (hfit : pattern.isMatch v.place.path = true) (hs : s.context.depth = v.place.depth) :
    v.Runs (.route i) s (Route.serve host v.place i handlers s) ∧
      (Route.serve host v.place i handlers s).1 ≠ .ok false := by
  unfold Route.serve
  split
  · rename_i handler _
    have hcalled : s.Leads v.place.depth [.serve v.place i] (s.log (.serve v.place i)) :=
      (State.Leads.refl hs).log (Event.isAt_of_place? rfl)
    have hrun : Calm v.place.depth (s.log (.serve v.place i))
        (handler.runAlone host (s.log (.serve v.place i))).2 :=
      Callback.runAlone_keeps h.keeps handler _
    generalize handler.runAlone host (s.log (.serve v.place i)) = r at hrun
    have hserved := (hcalled.trans (hrun hcalled.right)).log (e := .served v.place i r.1)
      (Event.isAt_of_place? rfl)
    refine ⟨⟨_, .serve r.1 hroute hfit, by simpa using hserved⟩, ?_⟩
    cases hr : r.1 <;> simp [hr, Except.map]
  · have hrefused : s.Leads v.place.depth [.refuse v.place i] (s.log (.refuse v.place i)) :=
      (State.Leads.refl hs).log (Event.isAt_of_place? rfl)
    refine ⟨⟨_, .refuse hroute hfit, ?_⟩, by simp⟩
    simpa using hrefused.trans (h.report .methodNotAllowed .methodNotAllowed _ hrefused.right)

/-- A mount that was tried in vain. That the variables may be put back shows in no event. -/
theorem runs_back {v : Visit ν} {i : Nat} {pattern : Pattern} {filters : List (Guard ν)}
    {routes : List (Route ν)} {suffix : String} {captures : Vars} {s t : State ν}
    {rest : State ν → Except Failure Bool × State ν}
    (hroute : v.router.routes[i]? = some (.mount pattern filters routes))
    (hmount : pattern.matchPrefix? v.place.path Dict.empty = some (suffix, captures))
    (hbelow : Runs ⟨v.place.below i suffix, { filters, routes }⟩ (.filter 0) s (.ok false, t))
    (hrest : ∀ u, u.context.depth = v.place.depth → v.Runs (.route (i + 1)) u (rest u)) :
    v.Runs (.route i) s
      (rest (if captures.isEmpty = true then t else t.setVars s.context.vars)) := by
  obtain ⟨es, hrun, hleads⟩ := hbelow
  have hback : s.Leads v.place.depth es
      (if captures.isEmpty = true then t else t.setVars s.context.vars) := by
    split
    · exact hleads
    · exact hleads.of_eq rfl rfl
  obtain ⟨es', hrun', hleads'⟩ := hrest _ hback.right
  exact ⟨es ++ es', .back hroute hmount hrun hrun', hback.trans hleads'⟩

theorem runs_dispatchAll (routes : List (Route ν)) : ∀ (v : Visit ν), host.Quiet v.place.depth →
    ∀ i s, v.router.routes.drop i = routes → s.context.depth = v.place.depth →
      v.Runs (.route i) s (Route.dispatchAll host v.place i routes s) := by
  induction routes using Route.list_induction with
  | nil =>
    intro v h i s hdrop hs
    rw [Route.dispatchAll]
    exact ⟨[], .exhausted (by simpa using hdrop), .refl hs⟩
  | page pattern handlers rest ih =>
    intro v h i s hdrop hs
    obtain ⟨hroute, hrest⟩ := getElem?_of_drop_eq_cons hdrop
    rw [Route.dispatchAll, Route.dispatch]
    cases hvars : pattern.matchVars? v.place.path s.context.vars with
    | none =>
      obtain ⟨es, hrun, hleads⟩ := ih v h (i + 1) s hrest hs
      exact ⟨es, .overlook hroute (Pattern.matchVars?_eq_none_iff.mp hvars) hrun, hleads⟩
    | some vars =>
      have hserve := runs_serve (s := s.setVars vars) h hroute
        (Pattern.isMatch_of_matchVars? hvars) hs
      simp only []
      split
      · rename_i heq
        exact absurd (by rw [heq]) hserve.2
      · exact hserve.1.of_setVars
  | mount pattern filters routes rest ihbelow ih =>
    intro v h i s hdrop hs
    obtain ⟨hroute, hrest⟩ := getElem?_of_drop_eq_cons hdrop
    rw [Route.dispatchAll, Route.dispatch]
    cases hmount : pattern.matchPrefix? v.place.path Dict.empty with
    | none =>
      obtain ⟨es, hrun, hleads⟩ := ih v h (i + 1) s hrest hs
      exact ⟨es, .bypass hroute hmount hrun, hleads⟩
    | some found =>
      obtain ⟨suffix, captures⟩ := found
      let w : Visit ν := ⟨v.place.below i suffix, { filters, routes }⟩
      have hbelow : w.Runs (.filter 0) s (Guard.through host w.place
          (fun s => Route.dispatchAll host w.place 0 routes s) 0 filters
          (s.setVars (s.context.vars.merge captures))) :=
        Runs.of_setVars <| runs_through w h (fun s hs => ihbelow w h 0 s rfl hs) filters 0
          (s.setVars (s.context.vars.merge captures)) rfl hs
      change w.Runs _ _ (Guard.through host (v.place.below i suffix) _ 0 filters _) at hbelow
      simp only []
      generalize Guard.through host (v.place.below i suffix) _ 0 filters _ = answer at hbelow ⊢
      obtain ⟨a, t⟩ := answer
      cases a with
      | error failure =>
        obtain ⟨es, hrun, hleads⟩ := hbelow
        exact ⟨es, .decide hroute hmount (by simp) hrun, hleads⟩
      | ok matched =>
        cases matched with
        | true =>
          obtain ⟨es, hrun, hleads⟩ := hbelow
          exact ⟨es, .decide hroute hmount (by simp) hrun, hleads⟩
        | false => exact runs_back hroute hmount hbelow fun u hu => ih v h (i + 1) u hrest hu

end Visit

namespace Router

/-- Every dispatch is a run that starts with the filters. -/
theorem runs_dispatch {host : Host ν} (router : Router ν) (path : String) (s : State ν)
    (h : host.Quiet s.context.depth) :
    Visit.Runs ⟨{ depth := s.context.depth, mounts := [], path }, router⟩ (.filter 0) s
      (router.dispatch host path s) :=
  Visit.runs_through _ h (fun s hs => Visit.runs_dispatchAll router.routes _ h 0 s rfl hs)
    router.filters 0 s rfl rfl

end Router

/-! ## What a whole dispatch keeps -/

section Keeps

variable {host : Host ν} {R : State ν → State ν → Prop}

theorem Guard.through_keeps (h : host.Keeps R) (hlog : ∀ (s : State ν) e, R s (s.log e))
    (place : Place) {routes : State ν → Except Failure Bool × State ν}
    (hroutes : ∀ s, R s (routes s).2) (filters : List (Guard ν)) : ∀ i s,
      R s (through host place routes i filters s).2 := by
  induction filters with
  | nil => exact fun _ => hroutes
  | cons g rest ih =>
    intro i s
    cases hfit : g.captures? place.path with
    | none =>
      rw [through_cons_of_none hfit]
      exact ih (i + 1) s
    | some captures =>
      rw [through_cons_of_some hfit]
      have hafter (t : State ν) : R t (after host place routes i rest t).2 :=
        h.trans (hlog t _) (h.trans (ih (i + 1) _) (hlog _ _))
      have hrun := Callback.run_keeps h hafter g.callback
        { path := place.path, vars := s.context.vars.merge captures } (s.log (.enter place i))
      exact h.trans (hlog s _) (h.trans hrun (hlog _ _))

namespace Route

theorem serve_keeps (h : host.Keeps R) (hlog : ∀ (s : State ν) e, R s (s.log e)) (place : Place)
    (i : Nat) (handlers : Dict (Callback ν .handler)) (s : State ν) :
    R s (serve host place i handlers s).2 := by
  unfold serve
  split
  · next handler _ =>
    exact h.trans (hlog s _) (h.trans (Callback.runAlone_keeps h handler _) (hlog _ _))
  · exact h.trans (hlog s _) (h.report _ _ _)

mutual

/-- Setting the variables, as routes do, is an effect like those of callbacks. -/
theorem dispatch_keeps (h : host.Keeps R) (hlog : ∀ (s : State ν) e, R s (s.log e))
    (place : Place) (i : Nat) : ∀ (route : Route ν) s, R s (dispatch host place i route s).2
  | .page pattern handlers, s => by
    rw [dispatch]
    cases pattern.matchVars? place.path s.context.vars with
    | none => exact h.refl s
    | some vars =>
      exact h.trans (h.effect (.setVars s vars)) (serve_keeps h hlog place i handlers _)
  | .mount pattern filters routes, s => by
    rw [dispatch]
    cases pattern.matchPrefix? place.path Dict.empty with
    | none => exact h.refl s
    | some found =>
      obtain ⟨suffix, captures⟩ := found
      have hbelow := h.trans (h.effect (.setVars s (s.context.vars.merge captures)))
        (Guard.through_keeps h hlog (place.below i suffix)
          (dispatchAll_keeps h hlog (place.below i suffix) 0 routes) filters 0 _)
      dsimp only
      generalize Guard.through host (place.below i suffix) _ 0 filters _ = answer at hbelow ⊢
      match answer with
      | (.ok true, t) | (.error failure, t) => exact hbelow
      | (.ok false, t) =>
        dsimp only
        split
        · exact hbelow
        · exact h.trans hbelow (h.effect (.setVars t _))

theorem dispatchAll_keeps (h : host.Keeps R) (hlog : ∀ (s : State ν) e, R s (s.log e))
    (place : Place) (i : Nat) : ∀ (routes : List (Route ν)) s,
      R s (dispatchAll host place i routes s).2
  | [], s => by
    rw [dispatchAll]
    exact h.refl s
  | route :: rest, s => by
    rw [dispatchAll]
    have hroute := dispatch_keeps h hlog place i route s
    generalize dispatch host place i route s = answer at hroute ⊢
    match answer with
    | (.ok false, t) => exact h.trans hroute (dispatchAll_keeps h hlog place (i + 1) rest t)
    | (.ok true, t) | (.error failure, t) => exact hroute

end

end Route

theorem Router.dispatch_keeps (h : host.Keeps R) (hlog : ∀ (s : State ν) e, R s (s.log e))
    (router : Router ν) (path : String) (s : State ν) : R s (router.dispatch host path s).2 :=
  Guard.through_keeps h hlog _ (Route.dispatchAll_keeps h hlog _ 0 router.routes) router.filters 0 s

theorem Host.Keeps.settle (h : host.Keeps R) (answer : Except Failure Bool × State ν) :
    R answer.2 (host.settle answer) := by
  match answer with
  | (.ok true, s) => exact h.refl s
  | (.ok false, s) => exact h.report _ _ s
  | (.error failure, s) => exact h.report _ _ s

end Keeps

/-! ## What reports keep -/

/-- A reflexive and transitive relation that holds across all that happens to a state without
anybody being asked. -/
structure State.Lasting (R : State ν → State ν → Prop) : Prop where
  refl : ∀ s, R s s
  trans : ∀ {s t u}, R s t → R t u → R s u
  effect : ∀ {s t}, s.Effect t → R s t
  record : ∀ (s : State ν) failure, R s (s.record failure)
  overflow : ∀ s : State ν, R s s.overflow

/-- If such a relation holds across included pages, it holds across reports, however deep the error
page nests them. -/
theorem Site.keeps_hostBy (site : Site ν) {R : State ν → State ν → Prop} (h : State.Lasting R)
    {page : String → State ν → Except Failure Http.Status × State ν}
    (hpage : ∀ path s, R s (page path s).2) (room : Nat) : (site.hostBy page room).Keeps R := by
  refine ⟨h.refl, h.trans, h.effect, fun failure status s => ?_, hpage⟩
  induction room generalizing failure status s with
  | zero => exact h.trans (h.record s failure) (h.overflow _)
  | succ room ih =>
    have hnested : (site.hostBy page room).Keeps R := ⟨h.refl, h.trans, h.effect, ih, hpage⟩
    exact h.trans (h.record s failure) (Callback.runAlone_keeps hnested _ _)

/-- An include fails and changes nothing, or it adds to the response of the page. -/
theorem Site.page_cases (site : Site ν) (levels : Nat) (path : String) (s : State ν) :
    (∃ failure, site.page levels path s = (.error failure, s)) ∨
      ∃ (r : Http.Response) (world : World ν), site.page levels path s =
        (.ok r.status, { context := s.context.edit (.write r.body), world }) := by
  unfold page
  cases site.root with
  | none => exact .inl ⟨_, rfl⟩
  | some root =>
    cases levels with
    | zero => exact .inl ⟨_, rfl⟩
    | succ levels =>
      dsimp only
      cases s.context.includeRequest path with
      | error cause => exact .inl ⟨_, rfl⟩
      | ok request => exact .inr ⟨_, _, rfl⟩

/-! ## Sites are quiet -/

namespace Visit.Run

theorem isAt {v : Visit ν} {stage : Stage} {es : List (Event ν)} {a : Except Failure Bool}
    (h : v.Run stage es a) : ∀ e ∈ es, e.isAt v.place.depth = true := by
  induction h with
  | enough _ _ ih | skip _ _ _ ih | overlook _ _ _ ih | bypass _ _ _ ih => exact ih
  | stop | exhausted | serve | refuse => simp [Event.isAt, Event.place?]
  | pass result claimed _ _ _ ih =>
    intro e he
    simp only [List.mem_cons, List.mem_append, List.not_mem_nil, or_false] at he
    obtain rfl | rfl | he | rfl | rfl := he
    · exact Event.isAt_of_place? rfl
    · exact Event.isAt_of_place? rfl
    · exact ih e he
    · exact Event.isAt_of_place? rfl
    · exact Event.isAt_of_place? rfl
  | back _ _ _ _ ihbelow ih =>
    intro e he
    exact (List.mem_append.mp he).elim (ihbelow e) (ih e)
  | decide _ _ _ _ ih => exact ih

end Visit.Run

namespace Site

variable (site : Site ν) {depth : Nat}

/-- Error pages run on the page where the failure was reported. -/
theorem quiet_hostBy {page : String → State ν → Except Failure Http.Status × State ν}
    (hpage : ∀ path (s : State ν), s.context.depth = depth → s.Leads depth [] (page path s).2)
    (room : Nat) : (site.hostBy page room).Quiet depth := by
  have hlasting : State.Lasting fun s t : State ν =>
      s.context.depth = depth → s.Leads depth [] t :=
    ⟨fun _ hs => .refl hs, fun hst htu hs => (hst hs).trans (htu (hst hs).right),
      fun he hs => he.leads hs, fun _ _ hs => (State.Leads.refl hs).of_eq rfl rfl,
      fun _ hs => (State.Leads.refl hs).of_eq rfl rfl⟩
  have hkeeps := site.keeps_hostBy hlasting hpage room
  exact ⟨hkeeps.report, hkeeps.page⟩

/-- Included pages lie deeper than the page that includes them. -/
theorem leads_page (levels : Nat) : ∀ depth path (s : State ν), s.context.depth = depth →
    s.Leads depth [] (site.page levels path s).2 := by
  induction levels with
  | zero =>
    intro depth path s hs
    unfold page
    cases site.root <;> exact .refl hs
  | succ levels ih =>
    intro depth path s hs
    unfold page
    cases site.root with
    | none => exact .refl hs
    | some root =>
      cases hrequest : s.context.includeRequest path with
      | error cause => exact .refl hs
      | ok request =>
        simp only []
        let host := site.hostBy (site.page levels) (site.room + 1)
        have hhost : host.Quiet (depth + 1) := site.quiet_hostBy (ih (depth + 1)) _
        let start : State ν := { s with context := s.context.child request }
        have hstart : start.context.depth = depth + 1 := by simp [start, Context.child, hs]
        have hquiet : host.Quiet start.context.depth := hstart ▸ hhost
        obtain ⟨es, hrun, hleads⟩ :=
          root.runs_dispatch (Context.includeTarget path).1 start hquiet
        have hat : ∀ e ∈ es, e.isAt (depth + 1) = true := hstart ▸ hrun.isAt
        have hsettled := hleads.trans (hquiet.keeps.settle _ hleads.right)
        rw [List.append_nil] at hsettled
        have hincluded := State.Leads.eventsWithin_eq (hstart ▸ hsettled) hat
        exact ⟨hs, hs, by rw [List.append_nil]; exact hincluded⟩

theorem quiet_host (context : Context) : (site.host context).Quiet depth :=
  site.quiet_hostBy (site.leads_page _ depth) _

end Site

/-- The events of a dispatch, the pages that it includes left out, are those of a run. -/
theorem Router.eventsAt_dispatch (site : Site ν) (router : Router ν) (path : String)
    (s : State ν) :
    ∃ es, Visit.Run ⟨{ depth := s.context.depth, mounts := [], path }, router⟩ (.filter 0) es
        (router.dispatch (site.host s.context) path s).1 ∧
      (router.dispatch (site.host s.context) path s).2.world.eventsAt s.context.depth =
        s.world.eventsAt s.context.depth ++ es := by
  obtain ⟨es, hrun, hleads⟩ := router.runs_dispatch path s (site.quiet_host s.context)
  refine ⟨es, hrun, ?_⟩
  have hes : es.filter (·.isAt s.context.depth) = es := List.filter_eq_self.mpr hrun.isAt
  rw [World.eventsAt_eq_filter, hleads.events, List.filter_append, hes,
    ← World.eventsAt_eq_filter]

end Signpost
