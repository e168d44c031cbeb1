import Signpost.Proofs.Registration.Numbering

/-!
# Well-formed routers

Registrations keep three things true of the router that they publish. In every router of the tree
no two pages have the same pattern (`Router.Distinct`), so a handler is refused exactly when its
pattern is new and does not compile or one of its methods is taken
(`Router.Distinct.handle_eq_error_iff`). The mounts of every router are numbered in order
(`Numbered.Ordered`). And the steps that were refused might as well not have been tried.
-/

namespace Signpost

variable {ν : Type}

theorem Pattern.text_of_compile {mode : Pattern.Mode} {text : String} {p : Pattern}
    (h : Pattern.compile mode text = .ok p) : p.text = text := by
  unfold Pattern.compile at h
  split at h
  · cases h
  · split at h
    · cases h
    · cases h
      rfl

/-! ## Binding handlers -/

namespace Route

/-- Methods can be bound unless one of them occurs twice or is taken. -/
theorem bind_eq_error_iff (pattern : String) (callback : Callback ν .handler)
    (methods : List String) (handlers : Dict (Callback ν .handler)) :
    (∃ fault, bind pattern callback methods handlers = .error fault) ↔
      ¬methods.Nodup ∨ ∃ method ∈ methods, handlers.contains method = true := by
  induction methods generalizing handlers with
  | nil => simp [bind]
  | cons method methods ih =>
    rw [bind]
    by_cases hmethod : handlers.contains method = true
    · simp [hmethod]
    · rw [if_neg hmethod, ih]
      simp only [Dict.contains_insert, List.nodup_cons, List.mem_cons, exists_eq_or_imp, hmethod,
        false_or, Bool.false_eq_true]
      constructor
      · rintro (hdup | ⟨other, hother, rfl | htaken⟩)
        · exact .inl fun h => hdup h.2
        · exact .inl fun h => h.1 hother
        · exact .inr ⟨other, hother, htaken⟩
      · rintro (hdup | ⟨other, hother, htaken⟩)
        · by_cases hnodup : methods.Nodup
          · have hmem : method ∈ methods := by
              by_contra hnot
              exact hdup ⟨hnot, hnodup⟩
            exact .inr ⟨method, hmem, .inl rfl⟩
          · exact .inl hnodup
        · exact .inr ⟨other, hother, .inr htaken⟩

/-! ## The patterns of pages -/

/-- The text of the pattern, if the route is a page. -/
def pageText? : Route ν → Option String
  | .page pattern _ => some pattern.text
  | .mount _ _ _ => none

theorem text_mem_pageTexts {pattern : Pattern} {handlers : Dict (Callback ν .handler)}
    {routes : List (Route ν)} (h : .page pattern handlers ∈ routes) :
    pattern.text ∈ routes.filterMap pageText? :=
  List.mem_filterMap.mpr ⟨.page pattern handlers, h, rfl⟩

/-- Either no page has the pattern, or there is a first one that has. -/
theorem exists_first_page (text : String) (routes : List (Route ν)) :
    text ∉ routes.filterMap pageText? ∨ ∃ before pattern handlers after,
      routes = before ++ .page pattern handlers :: after ∧ pattern.text = text ∧
        text ∉ before.filterMap pageText? := by
  induction routes with
  | nil => exact .inl List.not_mem_nil
  | cons route rest ih =>
    cases route with
    | page pattern handlers =>
      by_cases htext : pattern.text = text
      · exact .inr ⟨[], pattern, handlers, rest, rfl, htext, List.not_mem_nil⟩
      · have hcons {routes : List (Route ν)} (h : text ∉ routes.filterMap pageText?) :
            text ∉ (Route.page pattern handlers :: routes).filterMap pageText? := by
          simpa [pageText?, List.filterMap_cons, Ne.symm htext] using h
        obtain hnew | ⟨before, found, bound, after, rfl, hfound, hbefore⟩ := ih
        · exact .inl (hcons hnew)
        · exact .inr ⟨_ :: before, found, bound, after, rfl, hfound, hcons hbefore⟩
    | mount pattern filters routes =>
      obtain hnew | ⟨before, found, bound, after, rfl, hfound, hbefore⟩ := ih
      · exact .inl hnew
      · exact .inr ⟨_ :: before, found, bound, after, rfl, hfound, hbefore⟩

section Rebinding

variable (spec : RouteSpec) (callback : Callback ν .handler) {before routes : List (Route ν)}

theorem rebind_eq_none (h : spec.pattern ∉ routes.filterMap pageText?) :
    rebind spec callback routes = none := by
  induction routes with
  | nil => rfl
  | cons route rest ih =>
    cases route with
    | page pattern handlers =>
      obtain ⟨htext, hrest⟩ :
          spec.pattern ≠ pattern.text ∧ spec.pattern ∉ rest.filterMap pageText? := by
        simpa [pageText?, List.filterMap_cons] using h
      rw [rebind, if_neg (Ne.symm htext), ih hrest]
      rfl
    | mount pattern filters routes =>
      rw [rebind, ih h]
      rfl

theorem rebind_eq_some {pattern : Pattern} (hbefore : spec.pattern ∉ before.filterMap pageText?)
    (htext : pattern.text = spec.pattern) (handlers : Dict (Callback ν .handler))
    (after : List (Route ν)) :
    rebind spec callback (before ++ .page pattern handlers :: after) =
      some ((bind pattern.text callback spec.methods handlers).map
        (before ++ .page pattern · :: after)) := by
  induction before with
  | nil => exact if_pos htext
  | cons route before ih =>
    cases route with
    | page found others =>
      obtain ⟨hfound, hrest⟩ : spec.pattern ≠ found.text ∧
          spec.pattern ∉ before.filterMap pageText? := by
        simpa [pageText?, List.filterMap_cons] using hbefore
      rw [List.cons_append, rebind, if_neg (Ne.symm hfound), ih hrest, Option.map_some]
      cases bind pattern.text callback spec.methods handlers <;> rfl
    | mount found filters routes =>
      rw [List.cons_append, rebind, ih hbefore, Option.map_some]
      cases bind pattern.text callback spec.methods handlers <;> rfl

end Rebinding

/-- A handler is bound at the first page with its pattern if there is one. -/
theorem rebind_cases (spec : RouteSpec) (callback : Callback ν .handler)
    (routes : List (Route ν)) :
    (rebind spec callback routes = none ∧ spec.pattern ∉ routes.filterMap pageText?) ∨
      ∃ before pattern handlers after, routes = before ++ .page pattern handlers :: after ∧
        pattern.text = spec.pattern ∧
        rebind spec callback routes = some ((bind pattern.text callback spec.methods handlers).map
          (before ++ .page pattern · :: after)) := by
  obtain hnew | ⟨before, pattern, handlers, after, rfl, htext, hbefore⟩ :=
    exists_first_page spec.pattern routes
  · exact .inl ⟨rebind_eq_none spec callback hnew, hnew⟩
  · exact .inr ⟨before, pattern, handlers, after, rfl, htext,
      rebind_eq_some spec callback hbefore htext handlers after⟩

end Route

namespace Router

variable {router : Router ν}

/-- The patterns of the pages, in order. -/
def pageTexts (router : Router ν) : List String := router.routes.filterMap Route.pageText?

/-- No two pages have the same pattern. -/
def Distinct (router : Router ν) : Prop := router.pageTexts.Nodup

/-- The method has a handler at a page with the pattern. -/
def Binds (router : Router ν) (text method : String) : Prop :=
  ∃ pattern handlers, .page pattern handlers ∈ router.routes ∧ pattern.text = text ∧
    handlers.contains method = true

theorem not_binds_of_not_mem {text method : String} (h : text ∉ router.pageTexts) :
    ¬router.Binds text method := by
  rintro ⟨pattern, handlers, hmem, rfl, -⟩
  exact h (Route.text_mem_pageTexts hmem)

/-- Where patterns are distinct, the page with a pattern tells what is bound for it. -/
theorem Distinct.binds_iff (h : router.Distinct) {pattern : Pattern}
    {handlers : Dict (Callback ν .handler)} {before after : List (Route ν)}
    (hroutes : router.routes = before ++ .page pattern handlers :: after) (method : String) :
    router.Binds pattern.text method ↔ handlers.contains method = true := by
  constructor
  · rintro ⟨pattern', handlers', hmem, htext, hcontains⟩
    rw [Distinct, pageTexts, hroutes, List.filterMap_append, List.filterMap_cons] at h
    simp only [Route.pageText?] at h
    obtain ⟨-, hafter, hdisjoint⟩ := List.nodup_append.mp h
    have hnot : pattern.text ∉ before.filterMap Route.pageText? :=
      fun hin => hdisjoint _ hin _ List.mem_cons_self rfl
    have hnot' : pattern.text ∉ after.filterMap Route.pageText? := (List.nodup_cons.mp hafter).1
    rw [hroutes, List.mem_append, List.mem_cons] at hmem
    obtain hin | heq | hin := hmem
    · exact absurd (htext ▸ Route.text_mem_pageTexts hin) hnot
    · obtain ⟨-, rfl⟩ := Route.page.inj heq
      exact hcontains
    · exact absurd (htext ▸ Route.text_mem_pageTexts hin) hnot'
  · intro hcontains
    refine ⟨pattern, handlers, ?_, rfl, hcontains⟩
    rw [hroutes]
    exact List.mem_append_right _ List.mem_cons_self

/-- The router refuses a handler exactly when the pattern is new and does not compile, a method is
given twice, or a method is taken. -/
def RefusesExactly (router : Router ν) : Prop :=
  ∀ (route : String) (callback : Callback ν .handler),
    (∃ fault, router.handle route callback = .error fault) ↔
      ((RouteSpec.parse route).pattern ∉ router.pageTexts ∧
          ∃ cause, Pattern.compile .exact (RouteSpec.parse route).pattern = .error cause) ∨
        ¬(RouteSpec.parse route).methods.Nodup ∨
        ∃ method ∈ (RouteSpec.parse route).methods,
          router.Binds (RouteSpec.parse route).pattern method

theorem map_eq_error_iff {ε α β : Type} {x : Except ε α} {f : α → β} :
    (∃ e, x.map f = .error e) ↔ ∃ e, x = .error e := by
  cases x <;> simp [Except.map]

theorem Distinct.handle_eq_error_iff (h : router.Distinct) : router.RefusesExactly := by
  intro route callback
  unfold handle
  generalize RouteSpec.parse route = spec
  obtain ⟨hnone, hnew⟩ | ⟨before, pattern, handlers, after, hroutes, htext, hrebind⟩ :=
    Route.rebind_cases spec callback router.routes
  · simp only [hnone, map_eq_error_iff, Route.create]
    have hfree : ¬∃ method ∈ spec.methods, router.Binds spec.pattern method := by
      rintro ⟨method, -, hbinds⟩
      exact not_binds_of_not_mem hnew hbinds
    have hbind := Route.bind_eq_error_iff spec.pattern callback spec.methods Dict.empty
    simp only [Dict.contains, Dict.get?_empty, Option.isSome_none, Bool.false_eq_true, and_false,
      exists_false, or_false] at hbind
    cases hcompile : Pattern.compile .exact spec.pattern with
    | error cause => simp [pageTexts, hnew]
    | ok compiled => simp only [map_eq_error_iff, hbind, hfree, reduceCtorEq, exists_false,
        and_false, false_or, or_false]
  · simp only [hrebind, map_eq_error_iff, Route.bind_eq_error_iff]
    have hold : spec.pattern ∈ router.pageTexts := by
      rw [pageTexts, hroutes, ← htext]
      exact Route.text_mem_pageTexts (List.mem_append_right _ List.mem_cons_self)
    simp only [hold, not_true_eq_false, false_and, false_or]
    rw [← htext]
    simp only [h.binds_iff hroutes]

/-- Where a handler goes that is not refused: to a page of its own at the end, or to the page that
has its pattern. -/
theorem handle_cases {router' : Router ν} {route : String} {callback : Callback ν .handler}
    (h : router.handle route callback = .ok router') :
    ((RouteSpec.parse route).pattern ∉ router.pageTexts ∧ ∃ pattern bound,
      Pattern.compile .exact (RouteSpec.parse route).pattern = .ok pattern ∧
        Route.bind (RouteSpec.parse route).pattern callback (RouteSpec.parse route).methods
          Dict.empty = .ok bound ∧
        router' = { router with routes := router.routes ++ [.page pattern bound] }) ∨
      ∃ before pattern handlers after bound,
        router.routes = before ++ .page pattern handlers :: after ∧
          pattern.text = (RouteSpec.parse route).pattern ∧
          Route.bind pattern.text callback (RouteSpec.parse route).methods handlers = .ok bound ∧
          router' = { router with routes := before ++ .page pattern bound :: after } := by
  unfold handle at h
  obtain ⟨hnone, hnew⟩ | ⟨before, pattern, handlers, after, hroutes, htext, hrebind⟩ :=
    Route.rebind_cases (RouteSpec.parse route) callback router.routes
  · simp only [hnone, Route.create] at h
    cases hcompile : Pattern.compile .exact (RouteSpec.parse route).pattern with
    | error cause => simp [hcompile, Except.map] at h
    | ok compiled =>
      simp only [hcompile] at h
      cases hbind : Route.bind (RouteSpec.parse route).pattern callback
          (RouteSpec.parse route).methods Dict.empty with
      | error fault => simp [hbind, Except.map] at h
      | ok bound =>
        simp only [hbind, Except.map, Except.ok.injEq] at h
        exact .inl ⟨hnew, compiled, bound, rfl, rfl, h.symm⟩
  · simp only [hrebind] at h
    cases hbind : Route.bind pattern.text callback (RouteSpec.parse route).methods handlers with
    | error fault => simp [hbind, Except.map] at h
    | ok bound =>
      simp only [hbind, Except.map, Except.ok.injEq] at h
      exact .inr ⟨before, pattern, handlers, after, bound, hroutes, htext, hbind, h.symm⟩

end Router

/-! ## All routers of a tree -/

mutual

/-- The property holds of every router below the route. -/
def Route.Everywhere (P : Router ν → Prop) : Route ν → Prop
  | .page _ _ => True
  | .mount _ filters routes => P { filters, routes } ∧ Route.EverywhereAll P routes

def Route.EverywhereAll (P : Router ν → Prop) : List (Route ν) → Prop
  | [] => True
  | route :: rest => route.Everywhere P ∧ Route.EverywhereAll P rest

end

/-- The property holds of the router and of every one mounted below it. -/
def Router.Everywhere (P : Router ν → Prop) (router : Router ν) : Prop :=
  P router ∧ Route.EverywhereAll P router.routes

mutual

theorem Route.Everywhere.imp {P Q : Router ν → Prop} (h : ∀ router, P router → Q router) :
    ∀ {route : Route ν}, route.Everywhere P → route.Everywhere Q
  | .page _ _, _ => trivial
  | .mount _ _ _, ⟨hrouter, hroutes⟩ => ⟨h _ hrouter, Route.EverywhereAll.imp h hroutes⟩

theorem Route.EverywhereAll.imp {P Q : Router ν → Prop} (h : ∀ router, P router → Q router) :
    ∀ {routes : List (Route ν)}, Route.EverywhereAll P routes → Route.EverywhereAll Q routes
  | [], _ => trivial
  | _ :: _, ⟨hroute, hrest⟩ => ⟨hroute.imp h, Route.EverywhereAll.imp h hrest⟩

end

theorem Router.Everywhere.imp {P Q : Router ν → Prop} (h : ∀ router, P router → Q router)
    {router : Router ν} (hrouter : router.Everywhere P) : router.Everywhere Q :=
  ⟨h _ hrouter.1, hrouter.2.imp h⟩

mutual

/-- What holds everywhere holds everywhere below each router of the tree. -/
theorem Route.Everywhere.below {P : Router ν → Prop} :
    ∀ {route : Route ν}, route.Everywhere P → route.Everywhere (Router.Everywhere P)
  | .page _ _, _ => trivial
  | .mount _ _ _, h => ⟨h, Route.EverywhereAll.below h.2⟩

theorem Route.EverywhereAll.below {P : Router ν → Prop} :
    ∀ {routes : List (Route ν)}, Route.EverywhereAll P routes →
      Route.EverywhereAll (Router.Everywhere P) routes
  | [], _ => trivial
  | _ :: _, ⟨hroute, hrest⟩ => ⟨hroute.below, Route.EverywhereAll.below hrest⟩

end

theorem Router.Everywhere.below {P : Router ν → Prop} {router : Router ν}
    (h : router.Everywhere P) : router.Everywhere (Router.Everywhere P) :=
  ⟨h, h.2.below⟩

theorem Route.EverywhereAll.of_mem {P : Router ν → Prop} {route : Route ν}
    {routes : List (Route ν)} (h : Route.EverywhereAll P routes) (hmem : route ∈ routes) :
    route.Everywhere P := by
  induction routes with
  | nil => cases hmem
  | cons first rest ih =>
    rcases List.mem_cons.mp hmem with rfl | hmem
    · exact h.1
    · exact ih h.2 hmem

theorem Route.everywhereAll_append {P : Router ν → Prop} {routes routes' : List (Route ν)} :
    Route.EverywhereAll P (routes ++ routes') ↔
      Route.EverywhereAll P routes ∧ Route.EverywhereAll P routes' := by
  induction routes with
  | nil => simp [Route.EverywhereAll]
  | cons route rest ih => simp only [List.cons_append, Route.EverywhereAll, ih, and_assoc]

/-! ## What steps keep -/

namespace Router

variable {P : Router ν → Prop} {router router' below : Router ν}

/-- What is true of the empty router and stays true of a router when something is registered with
it. -/
structure Lasting (P : Router ν → Prop) : Prop where
  empty : P {}
  handle : ∀ {router router' : Router ν} {route : String} {callback : Callback ν .handler},
    P router → router.handle route callback = .ok router' → P router'
  filters : ∀ {router : Router ν} (filters : List (Guard ν)),
    P router → P { router with filters }
  mount : ∀ {router : Router ν} (pattern : Pattern) (below : Router ν),
    P router → P (router.mount pattern below)

theorem lasting_distinct : Lasting (Distinct (ν := ν)) where
  empty := List.nodup_nil
  handle := by
    intro router router' route callback hdistinct hok
    obtain ⟨hnew, pattern, bound, hcompile, -, rfl⟩ |
      ⟨before, pattern, handlers, after, bound, hroutes, -, -, rfl⟩ := handle_cases hok
    · unfold Distinct pageTexts
      rw [List.filterMap_append, List.filterMap_cons]
      refine List.nodup_append.mpr ⟨hdistinct, by simp [Route.pageText?], ?_⟩
      rintro text hin _ hlast rfl
      obtain rfl := List.mem_singleton.mp hlast
      exact hnew (Pattern.text_of_compile hcompile ▸ hin)
    · -- the page keeps its place and its pattern
      rw [Distinct, pageTexts, hroutes] at hdistinct
      simpa only [Distinct, pageTexts, List.filterMap_append, List.filterMap_cons,
        Route.pageText?] using hdistinct
  filters _ hdistinct := hdistinct
  mount pattern below hdistinct := by
    unfold Distinct pageTexts Router.mount
    rw [List.filterMap_append]
    exact (List.append_nil _).symm ▸ hdistinct

theorem Lasting.everywhere_empty (hP : Lasting P) : ({} : Router ν).Everywhere P :=
  ⟨hP.empty, trivial⟩

theorem Everywhere.handle (hP : Lasting P) (h : router.Everywhere P) {route : String}
    {callback : Callback ν .handler} (hok : router.handle route callback = .ok router') :
    router'.Everywhere P := by
  refine ⟨hP.handle h.1 hok, ?_⟩
  have hbelow := h.2
  obtain ⟨-, pattern, bound, -, -, rfl⟩ |
    ⟨before, pattern, handlers, after, bound, hroutes, -, -, rfl⟩ := handle_cases hok
  · exact Route.everywhereAll_append.mpr ⟨hbelow, trivial, trivial⟩
  · rw [hroutes, Route.everywhereAll_append] at hbelow
    exact Route.everywhereAll_append.mpr hbelow

theorem Everywhere.filter (hP : Lasting P) (h : router.Everywhere P) {pattern : String}
    {callback : Callback ν .filter} (hok : router.filter pattern callback = .ok router') :
    router'.Everywhere P := by
  have hfilters (filters : List (Guard ν)) : ({ router with filters } : Router ν).Everywhere P :=
    ⟨hP.filters filters h.1, h.2⟩
  unfold Router.filter at hok
  split at hok
  · cases hok
    exact hfilters _
  · split at hok
    · cases hok
    · cases hok
      exact hfilters _

theorem Everywhere.mount (hP : Lasting P) (h : router.Everywhere P) (pattern : Pattern)
    (hbelow : below.Everywhere P) : (router.mount pattern below).Everywhere P :=
  ⟨hP.mount pattern below h.1, Route.everywhereAll_append.mpr ⟨h.2, hbelow, trivial⟩⟩

theorem Everywhere.cons {stop : Bool} {step : Step ν} {steps : List (Step ν)}
    (hstep : (step.perform stop router).1.Everywhere P)
    (ih : ∀ router : Router ν, router.Everywhere P →
      (Step.performAll stop steps router).1.Everywhere P) :
    (Step.performAll stop (step :: steps) router).1.Everywhere P := by
  rw [Step.performAll]
  dsimp only
  split
  · exact hstep
  · exact ih _ hstep

theorem Everywhere.performAll (hP : Lasting P) (stop : Bool) (steps : List (Step ν)) :
    ∀ router : Router ν, router.Everywhere P →
      (Step.performAll stop steps router).1.Everywhere P := by
  induction steps using Step.list_induction with
  | nil =>
    intro router h
    rwa [Step.performAll]
  | handle route callback rest ih =>
    refine fun router h => .cons ?_ ih
    rw [Step.perform]
    cases hhandle : router.handle route callback with
    | error fault => exact h
    | ok router' => exact h.handle hP hhandle
  | filter pattern callback rest ih =>
    refine fun router h => .cons ?_ ih
    rw [Step.perform]
    cases hfilter : router.filter pattern callback with
    | error fault => exact h
    | ok router' => exact h.filter hP hfilter
  | mount pattern steps rest ihbelow ih =>
    refine fun router h => .cons ?_ ih
    rw [Step.perform]
    split
    · exact ihbelow router h
    · cases Pattern.compile .mount pattern with
      | error cause => exact h
      | ok compiled => exact h.mount hP compiled (ihbelow {} hP.everywhere_empty)

end Router

/-! ## Any number of registrations -/

/-- The numbered router after registrations. -/
def Numbered.registerAll (n : Numbered ν) (registrations : List (Bool × List (Step ν))) :
    Numbered ν :=
  registrations.foldl (fun n (stop, steps) => (n.performAll stop steps).1) n

theorem Numbered.Stands.registerAll (registrations : List (Bool × List (Step ν))) :
    ∀ (n : Numbered ν) (w : World ν), n.Stands w.published →
      (n.registerAll registrations).Stands (w.registerAll registrations).published := by
  induction registrations with
  | nil => exact fun n w h => h
  | cons registration rest ih =>
    intro n w h
    obtain ⟨stop, steps⟩ := registration
    exact ih _ (w.register stop steps).1 (h.performAll stop steps).1

theorem Router.Everywhere.registerAll {P : Router ν → Prop} (hP : Lasting P)
    (registrations : List (Bool × List (Step ν))) : ∀ w : World ν, w.published.Everywhere P →
      (w.registerAll registrations).published.Everywhere P := by
  induction registrations with
  | nil => exact fun w h => h
  | cons registration rest ih =>
    intro w h
    obtain ⟨stop, steps⟩ := registration
    exact ih (w.register stop steps).1 (h.performAll hP stop steps)

/-- What any registrations publish: mounts are numbered in order, so that no number leads nowhere;
in every router the patterns of pages are distinct, and a handler is refused for the known reasons
only; and the steps that succeeded lead to the same router, without a refusal. -/
theorem World.registerAll_wellFormed (shared : Attributes) (trail : List (Event ν))
    (registrations : List (Bool × List (Step ν))) :
    let w : World ν := { shared, trail }
    let router := (w.registerAll registrations).published
    let numbered := ({} : Numbered ν).registerAll registrations
    (numbered.Ordered ∧ numbered.resolve? = some router) ∧
      router.Everywhere (fun router => router.Distinct ∧ router.RefusesExactly) ∧
      Step.Succeeds (w.kept registrations) {} router := by
  intro w router numbered
  have hstands : numbered.Stands router := Numbered.Stands.registerAll registrations {} w .empty
  have hdistinct : router.Everywhere Router.Distinct :=
    Router.Everywhere.registerAll Router.lasting_distinct registrations w
      Router.lasting_distinct.everywhere_empty
  exact ⟨⟨hstands.ordered, hstands.resolved⟩,
    hdistinct.imp fun _ h => ⟨h, h.handle_eq_error_iff⟩, w.succeeds_kept registrations⟩

end Signpost
