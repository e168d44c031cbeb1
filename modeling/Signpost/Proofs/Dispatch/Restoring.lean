import Signpost.Proofs.Dispatch.Leaves
import Signpost.Proofs.Registration.WellFormed

/-!
# Mounts that were tried in vain

A mount that does not deal with the request sets the variables back, but only if its pattern
captured something. The dispatch that sets them back always (`Router.dispatchSaving`) is the same
dispatch, as long as no filter of a mount without captures sets variables
(`Router.dispatch_eq_dispatchSaving`). What such a filter writes is seen by the routes after the
mount (`Router.dispatch_ne_dispatchSaving`).
-/

namespace Signpost

open Http (Status)

variable {ν : Type}

/-! ## Always setting back -/

/-- The answer of a mount that was tried in the state `s`, with the variables set back if nothing
dealt with the request. -/
def State.restored (s : State ν) :
    Except Failure Bool × State ν → Except Failure Bool × State ν
  | (.ok false, t) => (.ok false, t.setVars s.context.vars)
  | answer => answer

theorem State.vars_restored (s : State ν) (answer : Except Failure Bool × State ν)
    (h : (s.restored answer).1 = .ok false) :
    (s.restored answer).2.context.vars = s.context.vars := by
  match answer with
  | (.ok false, t) => rfl
  | (.ok true, t) | (.error failure, t) => cases h

/-- A mount that captured nothing need not set the variables back where they are as it found
them. -/
theorem State.restored_eq {s : State ν} {captures : Vars} (answer : Except Failure Bool × State ν) :
    (captures.isEmpty = true → answer.1 = .ok false →
      answer.2.context.vars = s.context.vars) →
    s.restored answer =
      match answer with
      | (.ok false, t) => (.ok false, if captures.isEmpty then t else t.setVars s.context.vars)
      | answer => answer := by
  intro h
  rcases answer with ⟨failure | matched, t⟩
  · rfl
  cases matched with
  | true => rfl
  | false =>
    by_cases hempty : captures.isEmpty = true
    · have hvars : t.context.vars = s.context.vars := h hempty rfl
      have hsame : t.setVars s.context.vars = t := by
        rw [← hvars]
        rfl
      simp only [hempty, if_true, restored, hsame]
    · simp [hempty, restored]

namespace Route

mutual

/-- `dispatch`, but a mount sets the variables back whether or not it captured something. -/
def dispatchSaving (host : Host ν) (place : Place) (i : Nat) :
    Route ν → State ν → Except Failure Bool × State ν
  | .page pattern handlers, s => dispatch host place i (.page pattern handlers) s
  | .mount pattern filters routes, s =>
    match pattern.matchPrefix? place.path Dict.empty with
    | none => (.ok false, s)
    | some (suffix, captures) =>
      let below := place.below i suffix
      s.restored <| Guard.through host below (fun s => dispatchAllSaving host below 0 routes s) 0
        filters (s.setVars (s.context.vars.merge captures))

def dispatchAllSaving (host : Host ν) (place : Place) (i : Nat) :
    List (Route ν) → State ν → Except Failure Bool × State ν
  | [], s => (.ok false, s)
  | route :: rest, s =>
    match dispatchSaving host place i route s with
    | (.ok false, s) => dispatchAllSaving host place (i + 1) rest s
    | answer => answer

end

end Route

/-- `dispatch` with mounts that always set the variables back. -/
def Router.dispatchSaving (host : Host ν) (router : Router ν) (path : String) (s : State ν) :
    Except Failure Bool × State ν :=
  let place : Place := { depth := s.context.depth, mounts := [], path }
  Guard.through host place (fun s => Route.dispatchAllSaving host place 0 router.routes s) 0
    router.filters s

/-! ## Callbacks that leave the variables alone -/

/-- What is asked of the host leaves the variables as they are. -/
structure Host.KeepsVars (host : Host ν) : Prop where
  report : ∀ failure status s, (host.report failure status s).context.vars = s.context.vars
  page : ∀ path s, (host.page path s).2.context.vars = s.context.vars

/-- The answers that nothing dealt with the request leave the variables as they are. -/
def Spares (next : State ν → Except Failure Bool × State ν) : Prop :=
  ∀ s, (next s).1 = .ok false → (next s).2.context.vars = s.context.vars

namespace Callback

/-- The callback never sets the variables. -/
def KeepsVars : {role : Role} → Callback ν role → Prop
  | _, .finish _ => True
  | _, .look k => ∀ c, (k c).KeepsVars
  | _, .setVars _ _ => False
  | _, .setAttributes _ k => k.KeepsVars
  | _, .edit _ k => k.KeepsVars
  | _, .share _ k => ∀ shared, (k shared).KeepsVars
  | _, .report _ _ k => k.KeepsVars
  | _, .page _ k => ∀ answer, (k answer).KeepsVars
  | _, .register _ _ k => ∀ registered, (k registered).KeepsVars
  | _, .note _ k => k.KeepsVars
  | _, .next k => ∀ answer, (k answer).KeepsVars
  | _, .claim k => k.KeepsVars
  | _, .passage k => ∀ p, (k p).KeepsVars

theorem plainErrorPage_keepsVars (status : Status) :
    (plainErrorPage status : Callback ν .errorPage).KeepsVars := by
  intro c
  dsimp only
  split <;> exact trivial

/-- Every host keeps the relation that always holds. -/
theorem keeps_true (host : Host ν) : host.Keeps fun _ _ => True :=
  ⟨fun _ => trivial, fun _ _ => trivial, fun _ => trivial, fun _ _ _ => trivial,
    fun _ _ => trivial⟩

/-- Once a filter has asked, the answer that it got stays what its passage says. -/
theorem downstreamMatched_run (host : Host ν) (next : State ν → Except Failure Bool × State ν)
    {role : Role} (callback : Callback ν role) {p : Passage} (hp : p.nextCalled = true)
    (s : State ν) :
    (callback.run host next p s).passage.downstreamMatched = p.downstreamMatched := by
  have hran : Ran next (fun _ _ => True) p s (callback.run host next p s) :=
    run_ran (keeps_true host) callback p s
  cases hran with
  | apart _ _ hmatched => exact hmatched
  | through _ hfirst => simp [hp] at hfirst

/-- Unless something after it dealt with the request, the callback leaves the variables as they
were. -/
theorem KeepsVars.vars_run {host : Host ν} {next : State ν → Except Failure Bool × State ν}
    (hhost : host.KeepsVars) (hnext : Spares next) {role : Role} {callback : Callback ν role}
    (h : callback.KeepsVars) (p : Passage) (s : State ν)
    (hmatched : (callback.run host next p s).passage.downstreamMatched = false) :
    (callback.run host next p s).state.context.vars = s.context.vars := by
  fun_induction Callback.run host next callback p s
  case case1 => rfl
  case case2 k p s ih => exact ih (h s.context) hmatched
  case case3 => exact absurd h id
  case case4 ih | case5 ih | case10 ih | case13 ih => exact ih h hmatched
  case case6 ih => exact ih (h _) hmatched
  case case7 failure status k p s ih => rw [ih h hmatched, hhost.report]
  case case8 path k p s answer t hpage ih =>
    have hvars := hhost.page path s
    rw [hpage] at hvars
    rw [ih (h answer) hmatched, hvars]
  case case9 stop steps k p s world registered hregister ih => exact ih (h registered) hmatched
  case case11 ih => exact ih (h _) hmatched
  case case12 k p s hfirst answer t hanswer ih =>
    have hfalse : answer = .ok false := by
      have hcalled : (p.answered answer).nextCalled = true := rfl
      have hsaid := downstreamMatched_run host next (k answer) hcalled t
      rw [hmatched] at hsaid
      rcases answer with failure | matched
      · cases hsaid
      · exact congrArg Except.ok hsaid.symm
    have hvars := hnext s
    rw [hanswer] at hvars
    rw [ih (h answer) hmatched, hvars hfalse]
  case case14 k p s ih => exact ih (h p) hmatched

end Callback

/-! ## Filters and mounts -/

/-- A filter reports that nothing dealt with the request only if what comes after it does. -/
theorem Outcome.downstreamMatched_of_handled {o : Outcome ν}
    (h : (o.result.map fun _ => o.passage.handled) = .ok false) :
    o.passage.downstreamMatched = false := by
  have hhandled : o.passage.handled = false := by
    cases hresult : o.result <;> simp [hresult, Except.map] at h
    exact h
  simp [Passage.handled] at hhandled
  exact hhandled.2

theorem Guard.spares_through {host : Host ν} (hhost : host.KeepsVars) {place : Place}
    {routes : State ν → Except Failure Bool × State ν} (hroutes : Spares routes)
    {filters : List (Guard ν)} (hfilters : ∀ g ∈ filters, g.callback.KeepsVars) :
    ∀ i, Spares (through host place routes i filters) := by
  induction filters with
  | nil => exact fun _ => hroutes
  | cons g rest ih =>
    intro i
    have hrest := ih fun g hg => hfilters g (List.mem_cons_of_mem _ hg)
    intro s hanswer
    cases hfit : g.captures? place.path with
    | none =>
      rw [through_cons_of_none hfit] at hanswer ⊢
      exact hrest (i + 1) s hanswer
    | some captures =>
      rw [through_cons_of_some hfit] at hanswer ⊢
      have hafter : Spares (after host place routes i rest) := fun t ht => hrest (i + 1) _ ht
      exact Callback.KeepsVars.vars_run hhost hafter (hfilters g List.mem_cons_self) _ _
        (Outcome.downstreamMatched_of_handled hanswer)

/-- Wherever a pattern matches, it captures something if and only if it has names. -/
theorem Pattern.isEmpty_of_matchPrefix? {p : Pattern} {path suffix : String} {captures : Vars}
    (h : p.matchPrefix? path Dict.empty = some (suffix, captures)) :
    captures.isEmpty = p.names.isEmpty := by
  have hfold (c : Regex.Captures) (groups : List (String × Nat)) :
      (groups.foldl (fun vars group => vars.insert group.1 ((c.group? group.2).getD ""))
        (Dict.empty : Vars)).isEmpty = (groups.map (·.1)).isEmpty := by
    rcases groups.eq_nil_or_concat with rfl | ⟨first, last, rfl⟩
    · rfl
    · simp [List.foldl_append, Dict.isEmpty_insert]
  unfold matchPrefix? at h
  cases hmode : p.mode with
  | exact => simp [hmode] at h
  | mount =>
    simp only [hmode, Option.map_eq_some_iff, Prod.mk.injEq] at h
    obtain ⟨c, -, -, rfl⟩ := h
    exact hfold c p.regex.namedGroups

/-! ## Setting back spares the variables -/

namespace Route

variable {host : Host ν} {place : Place} {i : Nat}

theorem spares_page (pattern : Pattern) (handlers : Dict (Callback ν .handler)) :
    Spares (dispatchSaving host place i (.page pattern handlers)) := by
  intro s hanswer
  rw [dispatchSaving, dispatch] at hanswer ⊢
  cases hmatch : pattern.matchVars? place.path s.context.vars with
  | none => rfl
  | some vars =>
    rw [hmatch] at hanswer
    exact absurd hanswer (decides_serve place i pattern handlers vars s).answer_ne

theorem spares_mount (pattern : Pattern) (filters : List (Guard ν)) (routes : List (Route ν)) :
    Spares (dispatchSaving host place i (.mount pattern filters routes)) := by
  intro s hanswer
  rw [dispatchSaving] at hanswer ⊢
  cases hmount : pattern.matchPrefix? place.path Dict.empty with
  | none => rfl
  | some found =>
    rw [hmount] at hanswer
    exact s.vars_restored _ hanswer

theorem spares_dispatchAllSaving (routes : List (Route ν)) :
    ∀ i, Spares (dispatchAllSaving host place i routes) := by
  induction routes with
  | nil =>
    intro i s _
    rw [dispatchAllSaving]
  | cons route rest ih =>
    intro i s hanswer
    rw [dispatchAllSaving] at hanswer ⊢
    have hfirst : Spares (dispatchSaving host place i route) := by
      cases route with
      | page pattern handlers => exact spares_page pattern handlers
      | mount pattern filters routes => exact spares_mount pattern filters routes
    replace hfirst := hfirst s
    match hroute : dispatchSaving host place i route s with
    | (.ok true, t) | (.error failure, t) =>
      rw [hroute] at hanswer
      cases hanswer
    | (.ok false, t) =>
      rw [hroute] at hanswer hfirst
      exact (ih (i + 1) t hanswer).trans (hfirst rfl)

end Route

/-! ## Routers -/

/-- The pattern of each mount captures something, or no filter of its router sets variables. -/
def Router.Restores (router : Router ν) : Prop :=
  ∀ pattern filters routes, .mount pattern filters routes ∈ router.routes →
    pattern.names ≠ [] ∨ ∀ g ∈ filters, g.callback.KeepsVars

/-- So it is in all routers of the tree. -/
abbrev Router.AllRestore (router : Router ν) : Prop := router.Everywhere Router.Restores

namespace Router.AllRestore

theorem tail {route : Route ν} {rest : List (Route ν)}
    (h : ({ routes := route :: rest } : Router ν).AllRestore) :
    ({ routes := rest } : Router ν).AllRestore :=
  ⟨fun p gs rs hmem => h.1 p gs rs (List.mem_cons_of_mem _ hmem), h.2.2⟩

theorem of_mem {router : Router ν} {pattern : Pattern} {filters : List (Guard ν)}
    {routes : List (Route ν)} (h : router.AllRestore)
    (hmem : .mount pattern filters routes ∈ router.routes) :
    (pattern.names ≠ [] ∨ ∀ g ∈ filters, g.callback.KeepsVars) ∧
      ({ routes } : Router ν).AllRestore :=
  ⟨h.1 pattern filters routes hmem, h.2.of_mem hmem⟩

end Router.AllRestore

namespace Route

variable {host : Host ν} {place : Place} {i : Nat}

/-- Whether the mount captures something or not, it is as if it set the variables back. -/
theorem dispatchSaving_mount (hhost : host.KeepsVars) {pattern : Pattern}
    {filters : List (Guard ν)} {routes : List (Route ν)}
    (hpattern : pattern.names ≠ [] ∨ ∀ g ∈ filters, g.callback.KeepsVars)
    (hroutes : ∀ place i s,
      dispatchAllSaving host place i routes s = dispatchAll host place i routes s) (s : State ν) :
    dispatchSaving host place i (.mount pattern filters routes) s =
      dispatch host place i (.mount pattern filters routes) s := by
  rw [dispatchSaving, dispatch]
  cases hmount : pattern.matchPrefix? place.path Dict.empty with
  | none => rfl
  | some found =>
    obtain ⟨suffix, captures⟩ := found
    simp only [hroutes]
    refine s.restored_eq _ fun hempty hanswer => ?_
    -- nothing was captured, so the filters leave alone what they find
    have hnames : ¬pattern.names ≠ [] := by
      rw [Pattern.isEmpty_of_matchPrefix? hmount] at hempty
      simpa using hempty
    have hspares : Spares (fun s => dispatchAll host (place.below i suffix) 0 routes s) := by
      simp only [← hroutes]
      exact spares_dispatchAllSaving routes 0
    rw [Guard.spares_through hhost hspares (hpattern.resolve_left hnames) 0 _ hanswer,
      Dict.merge_of_isEmpty _ hempty]
    rfl

theorem dispatchAllSaving_cons {route : Route ν} {rest : List (Route ν)} {s : State ν}
    (hroute : dispatchSaving host place i route s = dispatch host place i route s)
    (hrest : ∀ s, dispatchAllSaving host place (i + 1) rest s =
      dispatchAll host place (i + 1) rest s) :
    dispatchAllSaving host place i (route :: rest) s =
      dispatchAll host place i (route :: rest) s := by
  rw [dispatchAllSaving, dispatchAll, hroute]
  rcases dispatch host place i route s with ⟨failure | matched, t⟩
  · rfl
  · cases matched with
    | true => rfl
    | false => exact hrest t

open Router (AllRestore) in
theorem dispatchAllSaving_eq (hhost : host.KeepsVars) (routes : List (Route ν)) :
    ({ routes } : Router ν).AllRestore → ∀ place i s,
      dispatchAllSaving host place i routes s = dispatchAll host place i routes s := by
  induction routes using Route.list_induction with
  | nil =>
    intro _ place i s
    rw [dispatchAllSaving, dispatchAll]
  | page pattern handlers rest ih =>
    intro h place i s
    exact dispatchAllSaving_cons (by rw [dispatchSaving]) (ih (AllRestore.tail h) place (i + 1))
  | mount pattern filters routes rest ihbelow ih =>
    intro h place i s
    obtain ⟨hpattern, hbelow⟩ := AllRestore.of_mem h List.mem_cons_self
    exact dispatchAllSaving_cons (dispatchSaving_mount hhost hpattern (ihbelow hbelow) s)
      (ih (AllRestore.tail h) place (i + 1))

end Route

/-! ## Sites -/

open Callback in
theorem Callback.KeepsVars.vars_runAlone {host : Host ν} (hhost : host.KeepsVars) {role : Role}
    {callback : Callback ν role} (h : callback.KeepsVars) (s : State ν) :
    (callback.runAlone host s).2.context.vars = s.context.vars := by
  refine h.vars_run hhost (fun _ _ => rfl) {} s ?_
  have hran : Ran (fun s => (.ok false, s)) (fun _ _ => True) {} s
      (callback.run host (fun s => (.ok false, s)) {} s) := run_ran (keeps_true host) callback {} s
  cases hran with
  | apart _ _ hmatched | through _ _ _ _ _ hmatched => exact hmatched

namespace Site

variable {site : Site ν}

theorem vars_page (site : Site ν) (levels : Nat) (path : String) (s : State ν) :
    (site.page levels path s).2.context.vars = s.context.vars := by
  rcases site.page_cases levels path s with ⟨failure, heq⟩ | ⟨r, world, heq⟩ <;> rw [heq]
  rfl

/-- An error page that never sets the variables leaves them alone, and so do the reports that it
makes. -/
theorem keepsVars_hostBy (herror : ∀ status, (site.errorPage status).KeepsVars)
    {page : String → State ν → Except Failure Status × State ν}
    (hpage : ∀ path s, (page path s).2.context.vars = s.context.vars) (room : Nat) :
    (site.hostBy page room).KeepsVars := by
  refine ⟨fun failure status s => ?_, hpage⟩
  induction room generalizing failure status s with
  | zero => rfl
  | succ room ih => exact (herror status).vars_runAlone ⟨ih, hpage⟩ (s.record failure)

theorem keepsVars_host (herror : ∀ status, (site.errorPage status).KeepsVars) (context : Context) :
    (site.host context).KeepsVars :=
  keepsVars_hostBy herror (site.vars_page _) _

end Site

/-! ## A filter that writes -/

/-- A mount that can be found by evaluation, and its match. -/
theorem Pattern.exists_mount_eq (text path : String) (rounds : Nat) (suffix : String)
    (names : List String)
    (h : ((compile .mount text).toOption.bind fun p =>
      (p.regex.capturesFor rounds path).map fun found => found.map fun c =>
        (p.mode, Path.clean ((c.group? p.regex.groupNames.length).getD ""), p.names)) =
      some (some (.mount, suffix, names))) :
    ∃ p captures, compile .mount text = .ok p ∧
      p.matchPrefix? path Dict.empty = some (suffix, captures) ∧ p.names = names := by
  obtain ⟨p, c, hp, hc, hfound⟩ := exists_compile_eq .mount text path rounds _ _ h
  simp only [Prod.mk.injEq] at hfound
  obtain ⟨hmode, hsuffix, hnames⟩ := hfound
  refine ⟨p, p.capture c Dict.empty, hp, ?_, hnames⟩
  simp only [matchPrefix?, hmode, hc, Option.map_some, hsuffix]

/-- Sets a variable and passes the request on. -/
def Callback.tag (name value : String) : Callback ν .filter :=
  .setVar name value <| .next fun _ => .done

theorem Route.dispatchAll_singleton (host : Host ν) (place : Place) (i : Nat) (route : Route ν)
    (s : State ν) : dispatchAll host place i [route] s = dispatch host place i route s := by
  simp only [dispatchAll]
  rcases dispatch host place i route s with ⟨failure | matched, t⟩
  · rfl
  · cases matched <;> rfl

/-- A mount with nothing but such a filter lets the variable through if it captures nothing. -/
theorem Route.dispatch_tagged (host : Host ν) (place : Place) {pattern : Pattern} {suffix : String}
    {captures : Vars} (name value : String)
    (hmount : pattern.matchPrefix? place.path Dict.empty = some (suffix, captures)) (i : Nat)
    (s : State ν) :
    let answer := dispatch host place i (.mount pattern [⟨none, .tag name value⟩] []) s
    answer.1 = .ok false ∧ answer.2.context.vars =
      if captures.isEmpty then s.context.vars.insert name value else s.context.vars := by
  have hbelow : ∀ (below : Place) (t : State ν), ∃ u,
      Guard.through host below (fun s => dispatchAll host below 0 [] s) 0
        [⟨none, .tag name value⟩] t = (.ok false, u) ∧
      u.context.vars = t.context.vars.insert name value :=
    fun below t => ⟨_, rfl, rfl⟩
  obtain ⟨u, hthrough, hvars⟩ :=
    hbelow (place.below i suffix) (s.setVars (s.context.vars.merge captures))
  simp only [dispatch, hmount, hthrough, true_and]
  by_cases hempty : captures.isEmpty = true
  · rw [if_pos hempty, if_pos hempty, hvars, Dict.merge_of_isEmpty _ hempty]
    rfl
  · rw [if_neg hempty, if_neg hempty]
    rfl

namespace Router

/-- If in all routers of the tree the patterns of mounts capture something or the filters below them
set no variables, a dispatch is what it would be if each mount that was tried in vain set the
variables back; and so it does, wherever it is. -/
theorem dispatch_eq_dispatchSaving (site : Site ν) (context : Context) (router : Router ν)
    (hrouter : router.AllRestore) (herror : ∀ status, (site.errorPage status).KeepsVars) :
    let host := site.host context
    (∀ path s, router.dispatch host path s = router.dispatchSaving host path s) ∧
      router.Everywhere fun r => ∀ pattern filters routes,
        .mount pattern filters routes ∈ r.routes → ∀ place i s,
          (Route.dispatch host place i (.mount pattern filters routes) s).1 = .ok false →
            (Route.dispatch host place i (.mount pattern filters routes) s).2.context.vars =
              s.context.vars := by
  intro host
  have hhost : host.KeepsVars := Site.keepsVars_host herror context
  constructor
  · intro path s
    simp only [dispatch, dispatchSaving, Route.dispatchAllSaving_eq hhost router.routes hrouter]
  · refine hrouter.below.imp fun r hr pattern filters routes hmem place i => ?_
    obtain ⟨hpattern, hbelow⟩ := AllRestore.of_mem hr hmem
    intro s
    rw [← Route.dispatchSaving_mount hhost hpattern
      (Route.dispatchAllSaving_eq hhost routes hbelow) s]
    exact Route.spares_mount pattern filters routes s

/-- A tag behind a mount with a capture is gone when nothing is found there. -/
theorem dispatch_eq_dispatchSaving_captured : ∃ p : Pattern,
    Pattern.compile .mount "/\x7bs\x7d" = .ok p ∧
      let mount : Route Empty := .mount p [⟨none, .tag "x" "1"⟩] []
      let router : Router Empty := { routes := [mount] }
      let site : Site Empty := { root := some router, errorPage := Callback.plainErrorPage }
      let s : State Empty := ⟨{ request := default }, { published := router }⟩
      let host := site.host s.context
      let tried := mount.dispatch host { depth := 0, mounts := [], path := "/m/a" } 0 s
      router.dispatch host "/m/a" s = router.dispatchSaving host "/m/a" s ∧
        tried.1 = .ok false ∧ tried.2.context.vars = s.context.vars := by
  obtain ⟨p, captures, hp, hmount, hnames⟩ :=
    Pattern.exists_mount_eq "/\x7bs\x7d" "/m/a" 200 "/a" ["s"] (by decide +kernel)
  refine ⟨p, hp, ?_⟩
  intro mount router site s host tried
  have hrestores : router.AllRestore := by
    refine ⟨?_, ⟨fun _ _ _ hmem => absurd hmem List.not_mem_nil, trivial⟩, trivial⟩
    intro pattern filters routes hmem
    obtain ⟨rfl, -, -⟩ := Route.mount.inj (List.mem_singleton.mp hmem)
    exact .inl (by rw [hnames]; decide)
  obtain ⟨hsame, hspared⟩ := dispatch_eq_dispatchSaving site s.context router hrestores
    Callback.plainErrorPage_keepsVars
  have htried : tried.1 = .ok false :=
    (Route.dispatch_tagged host ⟨0, [], "/m/a"⟩ "x" "1" hmount 0 s).1
  exact ⟨hsame "/m/a" s, htried, hspared.1 _ _ _ List.mem_cons_self _ 0 s htried⟩

/-- Behind a mount that captures nothing it stays, though nothing was found there. -/
theorem dispatch_ne_dispatchSaving : ∃ p : Pattern,
    Pattern.compile .mount "/m" = .ok p ∧
      let mount : Route Empty := .mount p [⟨none, .tag "x" "1"⟩] []
      let router : Router Empty := { routes := [mount] }
      let site : Site Empty := { root := some router, errorPage := Callback.plainErrorPage }
      let s : State Empty := ⟨{ request := default }, { published := router }⟩
      let host := site.host s.context
      let tried := mount.dispatch host { depth := 0, mounts := [], path := "/m/a" } 0 s
      (tried.1 = .ok false ∧ s.context.vars.get? "x" = none ∧
        tried.2.context.vars.get? "x" = some "1") ∧
        router.dispatch host "/m/a" s ≠ router.dispatchSaving host "/m/a" s := by
  obtain ⟨p, captures, hp, hmount, hnames⟩ :=
    Pattern.exists_mount_eq "/m" "/m/a" 200 "/a" [] (by decide +kernel)
  refine ⟨p, hp, ?_⟩
  intro mount router site s host tried
  have hempty : captures.isEmpty = true := by
    rw [Pattern.isEmpty_of_matchPrefix? hmount, hnames]
    rfl
  obtain ⟨htried, hvars⟩ : tried.1 = .ok false ∧
      tried.2.context.vars = s.context.vars.insert "x" "1" := by
    have htagged := Route.dispatch_tagged host ⟨0, [], "/m/a"⟩ "x" "1" hmount 0 s
    rwa [if_pos hempty] at htagged
  have hdispatch : router.dispatch host "/m/a" s = tried :=
    Route.dispatchAll_singleton host _ 0 mount s
  have hfound : tried.2.context.vars.get? "x" = some "1" := by
    rw [hvars, Dict.get?_insert, if_pos rfl]
  have hnew : s.context.vars.get? "x" = none := Dict.get?_empty "x"
  refine ⟨⟨htried, hnew, hfound⟩, fun hsame => ?_⟩
  rw [hdispatch] at hsame
  have hspared : (router.dispatchSaving host "/m/a" s).2.context.vars = s.context.vars := by
    rw [hsame] at htried
    exact Route.spares_dispatchAllSaving router.routes 0 s htried
  rw [hsame, hspared] at hfound
  cases hfound

end Router

end Signpost
