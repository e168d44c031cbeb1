import Signpost.Config.Registration
import Signpost.Proofs.Registration.WellFormed

/-!
# Installing

Steps that stop at a refusal either all succeed or come to a first fault, so that they make a router
or an error (`Step.installAll`), and this is what the reports of a registration amount to
(`Step.installAll_eq`). A handler that is installed is served for its methods, and all others go on
as before (`Router.serves_handle`); one whose pattern compiles is refused for a conflict only.
-/

namespace Signpost

variable {ν : Type}

/-! ## Steps as one computation -/

mutual

/-- The router after the step, or the first fault. -/
def Step.install : Step ν → Router ν → Except RegistrationFault (Router ν)
  | .handle route callback, router => router.handle route callback
  | .filter pattern callback, router => router.filter pattern callback
  | .mount pattern steps, router =>
    if Router.mountsSelf pattern then Step.installAll steps router
    else match Pattern.compile .mount pattern with
      | .error cause => .error (.badPattern cause)
      | .ok compiled => (Step.installAll steps {}).map fun below => router.mount compiled below

def Step.installAll : List (Step ν) → Router ν → Except RegistrationFault (Router ν)
  | [], router => .ok router
  | step :: steps, router => (step.install router).bind fun router => Step.installAll steps router

end

namespace Step

theorem installAll_append (steps steps' : List (Step ν)) (router : Router ν) :
    installAll (steps ++ steps') router =
      (installAll steps router).bind fun router => installAll steps' router := by
  induction steps generalizing router with
  | nil => rw [List.nil_append, installAll, Except.bind]
  | cons step steps ih =>
    rw [List.cons_append, installAll, installAll]
    cases step.install router with
    | error fault => rfl
    | ok router' => exact ih router'

theorem installAll_append_eq_ok {steps steps' : List (Step ν)} {router router' : Router ν}
    (h : installAll (steps ++ steps') router = .ok router') :
    ∃ between, installAll steps router = .ok between ∧
      installAll steps' between = .ok router' := by
  rw [installAll_append] at h
  cases hfirst : installAll steps router with
  | error fault =>
    rw [hfirst] at h
    cases h
  | ok between =>
    rw [hfirst] at h
    exact ⟨between, rfl, h⟩

/-- The router, unless there is a fault. -/
def unlessFault (router : Router ν) : Option RegistrationFault → Except RegistrationFault (Router ν)
  | none => .ok router
  | some fault => .error fault

variable {router : Router ν}

theorem installAll_cons_eq {step : Step ν} {steps : List (Step ν)}
    (hstep : step.install router =
      unlessFault (step.perform true router).1 (step.perform true router).2.fault?)
    (ih : ∀ router, installAll steps router = unlessFault (performAll true steps router).1
      (Report.firstFault? (performAll true steps router).2.reports)) :
    installAll (step :: steps) router = unlessFault (performAll true (step :: steps) router).1
      (Report.firstFault? (performAll true (step :: steps) router).2.reports) := by
  rw [installAll, hstep, performAll]
  generalize step.perform true router = performed
  obtain ⟨router', report⟩ := performed
  cases report with
  | refused fault => rfl
  | added filters routes => exact ih router'
  | mounted filters routes nested =>
    -- a fault below a mount does not stop the steps, and stays the first one
    simp only [Report.isOk, Bool.not_true, Bool.and_false, Bool.false_eq_true, if_false,
      Registered.cons, Report.firstFault?, Report.fault?]
    cases Report.firstFault? nested with
    | some fault => rfl
    | none => exact ih router'

/-- Installing is registering up to the first refused step, where the first fault counts. -/
theorem installAll_eq (steps : List (Step ν)) : ∀ router, installAll steps router =
    unlessFault (performAll true steps router).1
      (Report.firstFault? (performAll true steps router).2.reports) := by
  induction steps using Step.list_induction with
  | nil => exact fun router => rfl
  | handle route callback rest ih =>
    refine fun router => installAll_cons_eq ?_ ih
    rw [install, perform]
    cases router.handle route callback <;> rfl
  | filter pattern callback rest ih =>
    refine fun router => installAll_cons_eq ?_ ih
    rw [install, perform]
    cases router.filter pattern callback <;> rfl
  | mount pattern steps rest ihbelow ih =>
    refine fun router => installAll_cons_eq ?_ ih
    rw [install, perform]
    split
    · exact ihbelow router
    · cases Pattern.compile .mount pattern with
      | error cause => rfl
      | ok compiled =>
        dsimp only
        rw [ihbelow {}, Report.fault?]
        cases Report.firstFault? (performAll true steps {}).2.reports <;> rfl

end Step

theorem Config.router_eq (c : Config) :
    (c.router : Except RegistrationFault (Router ν)) = Step.installAll c.steps {} := by
  rw [Step.installAll_eq, Config.router]
  dsimp only
  cases Report.firstFault? (Step.performAll true c.steps ({} : Router ν)).2.reports <;> rfl

/-! ## What handlers are bound to -/

namespace Route

/-- Methods that can be bound were free, and all of them have the handler then. -/
theorem bind_eq_ok {pattern : String} {callback : Callback ν .handler} {methods : List String}
    {handlers bound : Dict (Callback ν .handler)}
    (h : bind pattern callback methods handlers = .ok bound) :
    (∀ method ∈ methods, handlers.get? method = none) ∧
      ∀ method, bound.get? method =
        if method ∈ methods then some callback else handlers.get? method := by
  induction methods generalizing handlers with
  | nil =>
    cases h
    exact ⟨fun _ hmem => absurd hmem List.not_mem_nil, fun _ => by simp⟩
  | cons first methods ih =>
    rw [bind] at h
    split at h
    · cases h
    · next hfree =>
      obtain ⟨hrest, hbound⟩ := ih h
      have hfirst : handlers.get? first = none := by simpa [Dict.contains] using hfree
      refine ⟨?_, fun method => ?_⟩
      · rintro method hmem
        obtain rfl | hmem := List.mem_cons.mp hmem
        · exact hfirst
        · have hinserted := hrest method hmem
          rw [Dict.get?_insert] at hinserted
          split at hinserted
          · cases hinserted
          · exact hinserted
      · rw [hbound, Dict.get?_insert]
        by_cases heq : method = first
        · simp [heq]
        · simp [heq]

theorem bind_eq_error {pattern : String} {callback : Callback ν .handler} {methods : List String}
    {handlers : Dict (Callback ν .handler)} {fault : RegistrationFault}
    (h : bind pattern callback methods handlers = .error fault) :
    ∃ method, fault = .conflict pattern method := by
  induction methods generalizing handlers with
  | nil => cases h
  | cons first methods ih =>
    rw [bind] at h
    split at h
    · cases h
      exact ⟨first, rfl⟩
    · exact ih h

/-- The pattern of a mount and the router below it. -/
def mounted? : Route ν → Option (Pattern × Router ν)
  | .page _ _ => none
  | .mount pattern filters routes => some (pattern, { filters, routes })

end Route

namespace Router

variable {router router' : Router ν} {route : String} {callback : Callback ν .handler}

/-- The mounts with their patterns, in order. -/
def mounts (router : Router ν) : List (Pattern × Router ν) := router.routes.filterMap Route.mounted?

/-- Requests with the method for a page with the pattern go to the handler. -/
def Serves (router : Router ν) (text method : String) (callback : Callback ν .handler) : Prop :=
  ∃ pattern handlers, .page pattern handlers ∈ router.routes ∧ pattern.text = text ∧
    handlers.get? method = some callback

theorem binds_iff_serves (router : Router ν) (text method : String) :
    router.Binds text method ↔ ∃ callback, router.Serves text method callback := by
  constructor
  · rintro ⟨pattern, handlers, hmem, htext, hcontains⟩
    obtain ⟨callback, hget⟩ := Option.isSome_iff_exists.mp hcontains
    exact ⟨callback, pattern, handlers, hmem, htext, hget⟩
  · rintro ⟨callback, pattern, handlers, hmem, htext, hget⟩
    exact ⟨pattern, handlers, hmem, htext, Option.isSome_iff_exists.mpr ⟨callback, hget⟩⟩

/-- Every page stands under its own pattern. -/
def Compiled (router : Router ν) : Prop :=
  ∀ pattern handlers, .page pattern handlers ∈ router.routes →
    Pattern.compile .exact pattern.text = .ok pattern

/-- A handler that is installed is served for its methods, and the others as before. -/
theorem serves_handle (h : router.handle route callback = .ok router')
    (text method : String) (served : Callback ν .handler) :
    router'.Serves text method served ↔ router.Serves text method served ∨
      (RouteSpec.parse route).pattern = text ∧ method ∈ (RouteSpec.parse route).methods ∧
        served = callback := by
  obtain ⟨hnew, pattern, bound, hcompile, hbind, rfl⟩ |
    ⟨before, pattern, handlers, after, bound, hroutes, htext, hbind, rfl⟩ := handle_cases h
  · obtain ⟨-, hbound⟩ := Route.bind_eq_ok hbind
    have hpattern := Pattern.text_of_compile hcompile
    simp only [Dict.get?_empty] at hbound
    constructor
    · rintro ⟨found, handlers, hmem, rfl, hget⟩
      obtain hmem | hmem := List.mem_append.mp hmem
      · exact .inl ⟨found, handlers, hmem, rfl, hget⟩
      · obtain ⟨rfl, rfl⟩ := Route.page.inj (List.mem_singleton.mp hmem)
        rw [hbound] at hget
        split at hget
        · next hmethod => exact .inr ⟨hpattern.symm, hmethod, (Option.some.inj hget).symm⟩
        · cases hget
    · rintro (⟨found, handlers, hmem, htext, hget⟩ | ⟨rfl, hmethod, rfl⟩)
      · exact ⟨found, handlers, List.mem_append_left _ hmem, htext, hget⟩
      · refine ⟨pattern, bound, List.mem_append_right _ List.mem_cons_self, hpattern, ?_⟩
        rw [hbound, if_pos hmethod]
  · obtain ⟨hfree, hbound⟩ := Route.bind_eq_ok hbind
    rw [← htext]
    simp only [Serves, hroutes, List.mem_append, List.mem_cons]
    constructor
    · rintro ⟨found, others, hmem | heq | hmem, rfl, hget⟩
      · exact .inl ⟨found, others, .inl hmem, rfl, hget⟩
      · obtain ⟨rfl, rfl⟩ := Route.page.inj heq
        rw [hbound] at hget
        split at hget
        · next hmethod => exact .inr ⟨rfl, hmethod, (Option.some.inj hget).symm⟩
        · exact .inl ⟨found, handlers, .inr (.inl rfl), rfl, hget⟩
      · exact .inl ⟨found, others, .inr (.inr hmem), rfl, hget⟩
    · rintro (⟨found, others, hmem | heq | hmem, rfl, hget⟩ | ⟨rfl, hmethod, rfl⟩)
      · exact ⟨found, others, .inl hmem, rfl, hget⟩
      · obtain ⟨rfl, rfl⟩ := Route.page.inj heq
        refine ⟨found, bound, .inr (.inl rfl), rfl, ?_⟩
        -- what was served already is none of the methods, which were free
        rw [hbound, if_neg fun hmethod => ?_, hget]
        rw [hfree method hmethod] at hget
        cases hget
      · exact ⟨found, others, .inr (.inr hmem), rfl, hget⟩
      · refine ⟨pattern, bound, .inr (.inl rfl), rfl, ?_⟩
        rw [hbound, if_pos hmethod]

theorem mem_pageTexts_handle (h : router.handle route callback = .ok router') (text : String) :
    text ∈ router'.pageTexts ↔
      text ∈ router.pageTexts ∨ (RouteSpec.parse route).pattern = text := by
  obtain ⟨hnew, pattern, bound, hcompile, -, rfl⟩ |
    ⟨before, pattern, handlers, after, bound, hroutes, htext, -, rfl⟩ := handle_cases h
  · simp [pageTexts, Route.pageText?, Pattern.text_of_compile hcompile, eq_comm]
  · simp only [pageTexts, hroutes, List.filterMap_append, List.filterMap_cons, Route.pageText?,
      List.mem_append, List.mem_cons, htext]
    constructor
    · exact .inl
    · rintro (hmem | rfl)
      · exact hmem
      · exact .inr (.inl rfl)

theorem filters_handle (h : router.handle route callback = .ok router') :
    router'.filters = router.filters := by
  obtain ⟨-, pattern, bound, -, -, rfl⟩ | ⟨before, pattern, handlers, after, bound, -, -, -, rfl⟩ :=
    handle_cases h <;> rfl

theorem mounts_handle (h : router.handle route callback = .ok router') :
    router'.mounts = router.mounts := by
  obtain ⟨-, pattern, bound, -, -, rfl⟩ |
    ⟨before, pattern, handlers, after, bound, hroutes, -, -, rfl⟩ := handle_cases h
  · simp [mounts, Route.mounted?]
  · simp [mounts, hroutes, Route.mounted?, List.filterMap_cons]

theorem Compiled.handle (hcompiled : router.Compiled)
    (h : router.handle route callback = .ok router') : router'.Compiled := by
  obtain ⟨-, pattern, bound, hcompile, -, rfl⟩ |
    ⟨before, pattern, handlers, after, bound, hroutes, -, -, rfl⟩ := handle_cases h
  · intro found others hmem
    obtain hmem | hmem := List.mem_append.mp hmem
    · exact hcompiled found others hmem
    · obtain ⟨rfl, rfl⟩ := Route.page.inj (List.mem_singleton.mp hmem)
      rw [Pattern.text_of_compile hcompile, hcompile]
  · intro found others hmem
    simp only [List.mem_append, List.mem_cons] at hmem
    simp only [Compiled, hroutes, List.mem_append, List.mem_cons] at hcompiled
    obtain hmem | heq | hmem := hmem
    · exact hcompiled found others (.inl hmem)
    · obtain ⟨rfl, rfl⟩ := Route.page.inj heq
      exact hcompiled found handlers (.inr (.inl rfl))
    · exact hcompiled found others (.inr (.inr hmem))

theorem lasting_compiled : Lasting (Compiled (ν := ν)) where
  empty _ _ hmem := absurd hmem List.not_mem_nil
  handle := Compiled.handle
  filters _ hcompiled := hcompiled
  mount pattern below hcompiled found handlers hmem := by
    obtain hmem | hmem := List.mem_append.mp hmem
    · exact hcompiled found handlers hmem
    · cases List.mem_singleton.mp hmem

/-- So it is in all routers that registrations publish. -/
theorem compiled_registerAll (shared : Attributes) (trail : List (Event ν))
    (registrations : List (Bool × List (Step ν))) :
    (({ shared, trail } : World ν).registerAll registrations).published.Everywhere Compiled :=
  Everywhere.registerAll lasting_compiled registrations _ lasting_compiled.everywhere_empty

/-- Where the pattern of a handler compiles, only a conflict can refuse it. -/
theorem handle_eq_error {fault : RegistrationFault} {pattern : Pattern}
    (hcompile : Pattern.compile .exact (RouteSpec.parse route).pattern = .ok pattern)
    (h : router.handle route callback = .error fault) :
    ∃ text method, fault = .conflict text method := by
  unfold Router.handle at h
  obtain ⟨hnone, -⟩ | ⟨before, found, handlers, after, -, -, hrebind⟩ :=
    Route.rebind_cases (RouteSpec.parse route) callback router.routes
  · simp only [hnone, Route.create, hcompile] at h
    cases hbind : Route.bind (RouteSpec.parse route).pattern callback
        (RouteSpec.parse route).methods Dict.empty with
    | ok bound => simp [hbind, Except.map] at h
    | error cause =>
      simp only [hbind, Except.map, Except.error.injEq] at h
      exact ⟨_, h ▸ Route.bind_eq_error hbind⟩
  · simp only [hrebind] at h
    cases hbind : Route.bind found.text callback (RouteSpec.parse route).methods handlers with
    | ok bound => simp [hbind, Except.map] at h
    | error cause =>
      simp only [hbind, Except.map, Except.error.injEq] at h
      exact ⟨_, h ▸ Route.bind_eq_error hbind⟩

end Router

end Signpost
