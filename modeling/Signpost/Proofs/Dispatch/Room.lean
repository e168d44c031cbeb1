import Signpost.App
import Signpost.Proofs.Dispatch.Run

/-!
# Room for reports

An error page that reports a failure is called again, and nothing keeps it from going on like that
for ever. How many of its calls fit into one another is given with the application (`App.room`), and
a report that finds no room left raises a flag that stays up (`State.lasting_completed`). As long as
it stays down the room makes no difference: with more of it a request goes as before
(`App.serve_eq_of_room_le`). And it does stay down if the error page reports nothing but what ranks
below the status that it is called for, and there is room for all ranks (`Site.Ranked`).
-/

namespace Signpost

open Http (Request Response Status)

variable {ν : Type}

/-! ## What has overflowed stays so -/

/-- Every report so far has found room. -/
def State.Completed (s : State ν) : Prop := s.world.overflowed = false

theorem State.lasting_completed :
    State.Lasting fun s t : State ν => t.Completed → s.Completed where
  refl _ ht := ht
  trans hst htu hu := hst (htu hu)
  effect he ht := by cases he <;> exact ht
  record _ _ ht := ht
  overflow _ ht := nomatch ht

namespace Site

/-- A relation between worlds that is kept on a page if it is kept across the pages that it includes
holds across every page. -/
theorem world_page (site : Site ν) {W : World ν → World ν → Prop} (hrefl : ∀ w, W w w)
    (hlog : ∀ (s : State ν) e, W s.world (s.log e).world)
    (hhost : ∀ page, (∀ path (s : State ν), W s.world (page path s).2.world) →
      (site.hostBy page (site.room + 1)).Keeps fun s t => W s.world t.world) (levels : Nat) :
    ∀ path (s : State ν), W s.world (site.page levels path s).2.world := by
  induction levels with
  | zero =>
    intro path s
    unfold page
    cases site.root <;> exact hrefl _
  | succ levels ih =>
    intro path s
    unfold page
    cases site.root with
    | none => exact hrefl _
    | some root =>
      cases s.context.includeRequest path with
      | error cause => exact hrefl _
      | ok request =>
        have hkeeps := hhost _ ih
        let start : State ν := { s with context := s.context.child request }
        have hdispatch := root.dispatch_keeps hkeeps hlog (Context.includeTarget path).1 start
        exact hkeeps.trans hdispatch (hkeeps.settle _)

theorem completed_of_page (site : Site ν) (levels : Nat) (path : String) (s : State ν) :
    (site.page levels path s).2.Completed → s.Completed :=
  site.world_page (W := fun w w' => w'.overflowed = false → w.overflowed = false) (fun _ h => h)
    (fun _ _ h => h) (fun _ hpage => site.keeps_hostBy State.lasting_completed hpage _) levels path s

end Site

/-! ## More room -/

/-- Where the second host is asked instead of the first, a run that is completed goes as before. -/
structure Host.Extends (host host' : Host ν) : Prop where
  sticks : host.Keeps fun s t => t.Completed → s.Completed
  report : ∀ failure status s, (host.report failure status s).Completed →
    host'.report failure status s = host.report failure status s
  page : ∀ path s, (host.page path s).2.Completed → host'.page path s = host.page path s

section Extends

variable {host host' : Host ν}

theorem Callback.run_extends (h : host.Extends host')
    {next next' : State ν → Except Failure Bool × State ν}
    (hsticks : ∀ s, (next s).2.Completed → s.Completed)
    (hnext : ∀ s, (next s).2.Completed → next' s = next s) {role : Role}
    (callback : Callback ν role) (p : Passage) (s : State ν)
    (hdone : (callback.run host next p s).state.Completed) :
    callback.run host' next' p s = callback.run host next p s := by
  fun_induction Callback.run host next callback p s
  case case1 => rfl
  case case2 ih | case3 ih | case4 ih | case5 ih | case6 ih | case10 ih | case13 ih | case14 ih =>
    exact ih hdone
  case case7 failure status k p s ih =>
    have hreported := run_keeps h.sticks hsticks k p _ hdone
    rw [run, h.report failure status s hreported]
    exact ih hdone
  case case8 path k p s answer t hpage ih =>
    have hpaged : t.Completed := run_keeps h.sticks hsticks (k answer) p t hdone
    have hsame := h.page path s (by rwa [hpage])
    rw [run, hsame, hpage]
    exact ih hdone
  case case9 stop steps k p s world registered hregister ih =>
    rw [run, hregister]
    exact ih hdone
  case case11 k p s hcalled ih =>
    rw [run, if_pos hcalled]
    exact ih hdone
  case case12 k p s hfirst answer t hanswer ih =>
    have hanswered : t.Completed :=
      run_keeps h.sticks hsticks (k answer) (p.answered answer) t hdone
    have hsame := hnext s (by rwa [hanswer])
    rw [run, if_neg hfirst, hsame, hanswer]
    exact ih hdone

theorem Callback.runAlone_extends (h : host.Extends host') {role : Role}
    (callback : Callback ν role) (s : State ν) (hdone : (callback.runAlone host s).2.Completed) :
    callback.runAlone host' s = callback.runAlone host s := by
  unfold runAlone
  rw [callback.run_extends h (fun _ ht => ht) (fun _ _ => rfl) {} s hdone]

theorem Guard.through_extends (h : host.Extends host') (place : Place)
    {routes routes' : State ν → Except Failure Bool × State ν}
    (hsticks : ∀ s, (routes s).2.Completed → s.Completed)
    (hroutes : ∀ s, (routes s).2.Completed → routes' s = routes s) (filters : List (Guard ν)) :
    ∀ i s, (through host place routes i filters s).2.Completed →
      through host' place routes' i filters s = through host place routes i filters s := by
  induction filters with
  | nil => exact fun _ => hroutes
  | cons g rest ih =>
    intro i s hdone
    cases hfit : g.captures? place.path with
    | none =>
      rw [through_cons_of_none hfit] at hdone ⊢
      rw [through_cons_of_none hfit]
      exact ih (i + 1) s hdone
    | some captures =>
      rw [through_cons_of_some hfit] at hdone ⊢
      rw [through_cons_of_some hfit]
      have hkept (t : State ν) : (after host place routes i rest t).2.Completed → t.Completed :=
        through_keeps h.sticks (fun _ _ ht => ht) place hsticks rest (i + 1)
          (t.log (.descend place i))
      have hafter (t : State ν) (ht : (after host place routes i rest t).2.Completed) :
          after host' place routes' i rest t = after host place routes i rest t := by
        unfold after
        rw [ih (i + 1) (t.log (.descend place i)) ht]
      rw [g.callback.run_extends h hkept hafter _ _ hdone]

namespace Route

theorem serve_extends (h : host.Extends host') (place : Place) (i : Nat)
    (handlers : Dict (Callback ν .handler)) (s : State ν)
    (hdone : (serve host place i handlers s).2.Completed) :
    serve host' place i handlers s = serve host place i handlers s := by
  unfold serve at hdone ⊢
  cases hhandler : handler? handlers s.context.request.method.name with
  | none =>
    rw [hhandler] at hdone
    exact congrArg _ (h.report _ _ _ hdone)
  | some handler =>
    rw [hhandler] at hdone
    dsimp only
    rw [handler.runAlone_extends h _ hdone]

mutual

theorem dispatch_extends (h : host.Extends host') (place : Place) (i : Nat) :
    ∀ (route : Route ν) s, (dispatch host place i route s).2.Completed →
      dispatch host' place i route s = dispatch host place i route s
  | .page pattern handlers, s, hdone => by
    rw [dispatch] at hdone ⊢
    rw [dispatch]
    cases hvars : pattern.matchVars? place.path s.context.vars with
    | none => rfl
    | some vars =>
      rw [hvars] at hdone
      exact serve_extends h place i handlers _ hdone
  | .mount pattern filters routes, s, hdone => by
    rw [dispatch] at hdone ⊢
    rw [dispatch]
    cases hmount : pattern.matchPrefix? place.path Dict.empty with
    | none => rfl
    | some found =>
      obtain ⟨suffix, captures⟩ := found
      let below := place.below i suffix
      let start := s.setVars (s.context.vars.merge captures)
      have hsame := Guard.through_extends h below
        (dispatchAll_keeps h.sticks (fun _ _ ht => ht) below 0 routes)
        (fun t => dispatchAll_extends h below 0 routes t) filters 0 start
      have hthrough : (Guard.through host below (fun t => dispatchAll host below 0 routes t) 0
          filters start).2.Completed := by
        rw [hmount] at hdone
        dsimp only [below, start] at hdone ⊢
        generalize Guard.through host (place.below i suffix) _ 0 filters _ = answer at hdone ⊢
        match answer with
        | (.ok true, t) | (.error failure, t) => exact hdone
        | (.ok false, t) =>
          dsimp only at hdone
          split at hdone <;> exact hdone
      dsimp only
      rw [hsame hthrough]

theorem dispatchAll_extends (h : host.Extends host') (place : Place) (i : Nat) :
    ∀ (routes : List (Route ν)) s, (dispatchAll host place i routes s).2.Completed →
      dispatchAll host' place i routes s = dispatchAll host place i routes s
  | [], s, _ => by rw [dispatchAll, dispatchAll]
  | route :: rest, s, hdone => by
    rw [dispatchAll] at hdone ⊢
    rw [dispatchAll]
    have hsame := dispatch_extends h place i route s
    generalize dispatch host place i route s = answer at hdone hsame ⊢
    match answer with
    | (.ok true, t) | (.error failure, t) => rw [hsame hdone]
    | (.ok false, t) =>
      have hfirst : t.Completed :=
        dispatchAll_keeps h.sticks (fun _ _ ht => ht) place (i + 1) rest t hdone
      rw [hsame hfirst]
      exact dispatchAll_extends h place (i + 1) rest t hdone

end

end Route

theorem Router.dispatch_extends (h : host.Extends host') (router : Router ν) (path : String)
    (s : State ν) (hdone : (router.dispatch host path s).2.Completed) :
    router.dispatch host' path s = router.dispatch host path s :=
  Guard.through_extends h _
    (Route.dispatchAll_keeps h.sticks (fun _ _ ht => ht) _ 0 router.routes)
    (fun t => Route.dispatchAll_extends h _ 0 router.routes t) router.filters 0 s hdone

theorem Host.Extends.settle (h : host.Extends host') (answer : Except Failure Bool × State ν)
    (hdone : (host.settle answer).Completed) : host'.settle answer = host.settle answer := by
  match answer with
  | (.ok true, s) => rfl
  | (.ok false, s) => exact h.report _ _ s hdone
  | (.error failure, s) => exact h.report _ _ s hdone

/-- What comes of a dispatch in the end is the same, whatever has to be reported then. -/
theorem Router.settle_extends (h : host.Extends host') (router : Router ν) (path : String)
    (s : State ν) (hdone : (host.settle (router.dispatch host path s)).Completed) :
    host'.settle (router.dispatch host' path s) = host.settle (router.dispatch host path s) := by
  have hdispatched := h.sticks.settle (router.dispatch host path s) hdone
  rw [router.dispatch_extends h path s hdispatched]
  exact h.settle _ hdone

end Extends

namespace Site

/-- The second site is the first with as much room or more. -/
structure Roomier (site site' : Site ν) : Prop where
  root_eq : site'.root = site.root
  errorPage_eq : site'.errorPage = site.errorPage
  room_le : site.room ≤ site'.room

variable {site site' : Site ν}

theorem Roomier.hostBy_extends (h : site.Roomier site')
    {page page' : String → State ν → Except Failure Status × State ν}
    (hsticks : ∀ path s, (page path s).2.Completed → s.Completed)
    (hpage : ∀ path s, (page path s).2.Completed → page' path s = page path s) (room : Nat) :
    ∀ more, room ≤ more → (site.hostBy page room).Extends (site'.hostBy page' more) := by
  induction room with
  | zero =>
    intro more _
    refine ⟨site.keeps_hostBy State.lasting_completed hsticks 0, fun failure status s hdone => ?_,
      hpage⟩
    cases hdone
  | succ room ih =>
    intro more hle
    obtain ⟨more, rfl⟩ : ∃ n, more = n + 1 := ⟨_, (Nat.succ_pred_eq_of_pos (by omega)).symm⟩
    refine ⟨site.keeps_hostBy State.lasting_completed hsticks _, fun failure status s hdone => ?_,
      hpage⟩
    change ((site'.errorPage status).runAlone (site'.hostBy page' more) _).2 = _
    rw [h.errorPage_eq]
    exact congrArg Prod.snd
      ((site.errorPage status).runAlone_extends (ih more (by omega)) (s.record failure) hdone)

theorem Roomier.page_extends (h : site.Roomier site') (levels : Nat) :
    ∀ path s, (site.page levels path s).2.Completed →
      site'.page levels path s = site.page levels path s := by
  induction levels with
  | zero =>
    intro path s _
    unfold page
    rw [h.root_eq]
    cases site.root <;> rfl
  | succ levels ih =>
    intro path s
    unfold page
    rw [h.root_eq]
    cases site.root with
    | none => exact fun _ => rfl
    | some root =>
      cases s.context.includeRequest path with
      | error cause => exact fun _ => rfl
      | ok request =>
        intro hdone
        have hhost := h.hostBy_extends (site.completed_of_page levels) ih (site.room + 1)
          (site'.room + 1) (Nat.succ_le_succ h.room_le)
        have hsame := root.settle_extends hhost (Context.includeTarget path).1
          { s with context := s.context.child request } hdone
        dsimp only
        rw [hsame]

theorem Roomier.host_extends (h : site.Roomier site') (context : Context) :
    (site.host context).Extends (site'.host context) :=
  h.hostBy_extends (site.completed_of_page _) (h.page_extends _) (site.room + 1) (site'.room + 1)
    (Nat.succ_le_succ h.room_le)

end Site

/-- A request that is served without running out of room is served in the same way with more. -/
theorem App.serve_eq_of_room_le (app : App ν) {room : Nat} (hle : app.room ≤ room) (w : World ν)
    (request : Request) (hdone : (app.serve w request).2.overflowed = false) :
    ({ app with room } : App ν).serve w request = app.serve w request := by
  have hroomier : (app.site w).Roomier (({ app with room } : App ν).site w) := ⟨rfl, rfl, hle⟩
  have hhost := hroomier.host_extends (app.context request)
  let start : State ν := { context := app.context request, world := w }
  have hroute : ({ app with room } : App ν).routePath? (app.context request).path =
      app.routePath? (app.context request).path := rfl
  have hcontext : ({ app with room } : App ν).context request = app.context request := rfl
  unfold serve at hdone ⊢
  simp only [hcontext, hroute]
  cases hpath : app.routePath? (app.context request).path with
  | none =>
    simp only [hpath] at hdone
    dsimp only
    rw [hhost.report _ _ start hdone]
  | some path =>
    simp only [hpath] at hdone
    dsimp only
    rw [w.published.settle_extends hhost path start hdone]

/-! ## Enough room -/

namespace Callback

/-- Whatever the callback reports has a status with the property. -/
def ReportsOnly (Q : Status → Prop) : {role : Role} → Callback ν role → Prop
  | _, .finish _ => True
  | _, .look k => ∀ c, (k c).ReportsOnly Q
  | _, .setVars _ k => k.ReportsOnly Q
  | _, .setAttributes _ k => k.ReportsOnly Q
  | _, .edit _ k => k.ReportsOnly Q
  | _, .share _ k => ∀ shared, (k shared).ReportsOnly Q
  | _, .report _ status k => Q status ∧ k.ReportsOnly Q
  | _, .page _ k => ∀ answer, (k answer).ReportsOnly Q
  | _, .register _ _ k => ∀ registered, (k registered).ReportsOnly Q
  | _, .note _ k => k.ReportsOnly Q
  | _, .next k => ∀ answer, (k answer).ReportsOnly Q
  | _, .claim k => k.ReportsOnly Q
  | _, .passage k => ∀ p, (k p).ReportsOnly Q

theorem plainErrorPage_reportsOnly (Q : Status → Prop) (status : Status) :
    (plainErrorPage status : Callback ν .errorPage).ReportsOnly Q := by
  intro c
  dsimp only
  split <;> exact trivial

theorem ReportsOnly.overflowed_run {Q : Status → Prop} {host : Host ν}
    (hreport : ∀ failure status s, Q status →
      (host.report failure status s).world.overflowed = s.world.overflowed)
    (hpage : ∀ path s, (host.page path s).2.world.overflowed = s.world.overflowed)
    {next : State ν → Except Failure Bool × State ν}
    (hnext : ∀ s, (next s).2.world.overflowed = s.world.overflowed) {role : Role}
    {callback : Callback ν role} (h : callback.ReportsOnly Q) (p : Passage) (s : State ν) :
    (callback.run host next p s).state.world.overflowed = s.world.overflowed := by
  fun_induction Callback.run host next callback p s
  case case1 => rfl
  case case2 ih | case6 ih | case11 ih | case14 ih => exact ih (h _)
  case case3 ih | case4 ih | case5 ih | case10 ih | case13 ih => exact ih h
  case case7 failure status k p s ih => exact (ih h.2).trans (hreport failure status s h.1)
  case case8 path k p s answer t hpaged ih =>
    have hkept := hpage path s
    rw [hpaged] at hkept
    exact (ih (h answer)).trans hkept
  case case9 stop steps k p s world registered hregister ih =>
    have hkept : world.overflowed = s.world.overflowed :=
      (congrArg (fun result => result.1.overflowed) hregister).symm
    exact (ih (h registered)).trans hkept
  case case12 k p s hfirst answer t hanswer ih =>
    have hkept := hnext s
    rw [hanswer] at hkept
    exact (ih (h answer)).trans hkept

end Callback

namespace Site

/-- The error page reports nothing but what ranks below the status that it is called for, and there
is room for all ranks. -/
structure Ranked (rank : Status → Nat) (site : Site ν) : Prop where
  le_room : ∀ status, rank status ≤ site.room
  reportsOnly : ∀ status,
    (site.errorPage status).ReportsOnly fun nested => rank nested < rank status

namespace Ranked

variable {site : Site ν} {rank : Status → Nat}
  {page : String → State ν → Except Failure Status × State ν}

theorem overflowed_reportBy (h : site.Ranked rank)
    (hpage : ∀ path s, (page path s).2.world.overflowed = s.world.overflowed) (room : Nat) :
    ∀ failure status s, rank status < room →
      (site.reportBy page room failure status s).world.overflowed = s.world.overflowed := by
  induction room with
  | zero => exact fun _ _ _ hlt => absurd hlt (Nat.not_lt_zero _)
  | succ room ih =>
    intro failure status s hlt
    have hnested (failure : Failure) (nested : Status) (t : State ν)
        (hrank : rank nested < rank status) :
        (site.reportBy page room failure nested t).world.overflowed = t.world.overflowed :=
      ih failure nested t (by omega)
    exact (h.reportsOnly status).overflowed_run hnested hpage (fun _ => rfl) {} (s.record failure)

theorem keeps_hostBy (h : site.Ranked rank)
    (hpage : ∀ path s, (page path s).2.world.overflowed = s.world.overflowed) :
    (site.hostBy page (site.room + 1)).Keeps
      fun s t => t.world.overflowed = s.world.overflowed where
  refl _ := rfl
  trans hst htu := htu.trans hst
  effect he := by cases he <;> rfl
  report failure status s :=
    h.overflowed_reportBy hpage _ failure status s (Nat.lt_succ_of_le (h.le_room status))
  page := hpage

/-- Then no include runs out of room, whatever pages include each other. -/
theorem overflowed_page (h : site.Ranked rank) (levels : Nat) (path : String) (s : State ν) :
    (site.page levels path s).2.world.overflowed = s.world.overflowed :=
  site.world_page (W := fun w w' => w'.overflowed = w.overflowed) (fun _ => rfl) (fun _ _ => rfl)
    (fun _ hpage => h.keeps_hostBy hpage) levels path s

theorem keeps_host (h : site.Ranked rank) (context : Context) :
    (site.host context).Keeps fun s t => t.world.overflowed = s.world.overflowed :=
  h.keeps_hostBy (h.overflowed_page _)

end Ranked

end Site

/-- An application with such an error page does not run out of room. -/
theorem App.overflowed_serve (app : App ν) (w : World ν) {rank : Status → Nat}
    (h : (app.site w).Ranked rank) (request : Request) :
    (app.serve w request).2.overflowed = w.overflowed := by
  have hkeeps := h.keeps_host (app.context request)
  unfold serve
  dsimp only
  cases app.routePath? (app.context request).path with
  | none => exact hkeeps.report _ _ _
  | some path =>
    exact hkeeps.trans (w.published.dispatch_keeps hkeeps (fun _ _ => rfl) path _)
      (hkeeps.settle _)

/-- An error page that answers what is not found by reporting that it is gone. -/
example :
    let gone : Status := ⟨410, by decide, by decide⟩
    let app : App Empty :=
      { errorPage := fun status =>
          if status = .notFound then .status gone .done else .plainErrorPage status
        room := 1 }
    let served := app.serve {} { uri := { path := "/x" } }
    served.1.status = gone ∧ served.2.overflowed = false := by
  decide +kernel

end Signpost
