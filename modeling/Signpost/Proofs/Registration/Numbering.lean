import Signpost.Proofs.Registration.Steps
import Mathlib.Data.List.Forall2

/-!
# Routers with numbered mounts

A router may keep its mounts in a list of their own and let its routes refer to them by number
(`Numbered`). A step that mounts a router puts the mount at the end of this list and its number at
the end of the routes, and then carries out the steps below it on the mount where it stands. Such a
router stands for a router tree as long as no number is out of range (`Numbered.resolve?`).

Steps keep the numbers in order: in every router of the tree they are `0, 1, …` up to the number of
mounts (`Numbered.Ordered`). So the numbered router always stands for a tree, and that is the tree
that the same steps make without numbers, with the same reports (`Numbered.Stands.performAll`).
-/

namespace Signpost

variable {ν : Type}

/-! ## Numbered routers -/

/-- A route of a numbered router. -/
inductive Entry (ν : Type) where
  | page (pattern : Pattern) (handlers : Dict (Callback ν .handler))
  /-- The mount with the number. -/
  | mount (number : Nat)

namespace Entry

def number? : Entry ν → Option Nat
  | .page _ _ => none
  | .mount number => some number

/-- The routes that the entries stand for, where the mounts are given. -/
def resolveAll? (mounts : List (Pattern × Router ν)) : List (Entry ν) → Option (List (Route ν))
  | [] => some []
  | .page pattern handlers :: rest =>
    (resolveAll? mounts rest).map (.page pattern handlers :: ·)
  | .mount number :: rest => do
    let (pattern, below) ← mounts[number]?
    (resolveAll? mounts rest).map (.mount pattern below.filters below.routes :: ·)

/-- The entries with the handler bound at the first one that has the pattern of `spec`, if there is
one. -/
def rebind (spec : RouteSpec) (callback : Callback ν .handler) :
    List (Entry ν) → Option (Except RegistrationFault (List (Entry ν)))
  | [] => none
  | .page pattern handlers :: rest =>
    if pattern.text = spec.pattern then
      some ((Route.bind pattern.text callback spec.methods handlers).map (.page pattern · :: rest))
    else (rebind spec callback rest).map (·.map (.page pattern handlers :: ·))
  | .mount number :: rest => (rebind spec callback rest).map (·.map (.mount number :: ·))

def create (spec : RouteSpec) (callback : Callback ν .handler) :
    Except RegistrationFault (Entry ν) :=
  match Pattern.compile .exact spec.pattern with
  | .error cause => .error (.badPattern cause)
  | .ok pattern =>
    (Route.bind spec.pattern callback spec.methods Dict.empty).map (.page pattern ·)

end Entry

/-- A router whose mounts have numbers. -/
structure Numbered (ν : Type) where
  filters : List (Guard ν) := []
  entries : List (Entry ν) := []
  mounts : List (Pattern × Numbered ν) := []

namespace Numbered

/-- The numbers in the list of routes. -/
def numbers (router : Numbered ν) : List Nat := router.entries.filterMap Entry.number?

mutual

/-- In the router and in all that are mounted below it, the numbers in the list of routes are those
of the mounts, in order. -/
def Ordered : Numbered ν → Prop
  | ⟨_, entries, mounts⟩ =>
    entries.filterMap Entry.number? = List.range mounts.length ∧ OrderedAll mounts

def OrderedAll : List (Pattern × Numbered ν) → Prop
  | [] => True
  | (_, router) :: rest => router.Ordered ∧ OrderedAll rest

end

mutual

/-- The router tree that the numbered router stands for, unless a number is out of range. -/
def resolve? : Numbered ν → Option (Router ν)
  | ⟨filters, entries, mounts⟩ => do
    let mounts ← resolveAll? mounts
    (Entry.resolveAll? mounts entries).map fun routes => { filters, routes }

def resolveAll? : List (Pattern × Numbered ν) → Option (List (Pattern × Router ν))
  | [] => some []
  | (pattern, router) :: rest => do
    let below ← router.resolve?
    (resolveAll? rest).map ((pattern, below) :: ·)

end

/-! ## Steps -/

def handle (router : Numbered ν) (route : String) (callback : Callback ν .handler) :
    Except RegistrationFault (Numbered ν) :=
  let spec := RouteSpec.parse route
  match Entry.rebind spec callback router.entries with
  | some entries => entries.map fun entries => { router with entries }
  | none => (Entry.create spec callback).map fun entry =>
    { router with entries := router.entries ++ [entry] }

def filter (router : Numbered ν) (pattern : String) (callback : Callback ν .filter) :
    Except RegistrationFault (Numbered ν) :=
  let add (pattern : Option Pattern) : Numbered ν :=
    { router with filters := router.filters ++ [{ pattern, callback }] }
  if pattern.isEmpty then .ok (add none)
  else match Pattern.compile .exact pattern with
    | .error cause => .error (.badPattern cause)
    | .ok pattern => .ok (add (some pattern))

/-- The router with an empty one mounted below the pattern, under the next number. -/
def openMount (router : Numbered ν) (pattern : Pattern) : Numbered ν :=
  { router with
    entries := router.entries ++ [.mount router.mounts.length]
    mounts := router.mounts ++ [(pattern, {})] }

/-- The router that is mounted under the number. -/
def mountAt? (router : Numbered ν) (number : Nat) : Option (Numbered ν) :=
  router.mounts[number]?.map (·.2)

/-- The router with the one that is mounted under the number replaced. -/
def setMount (router : Numbered ν) (number : Nat) (below : Numbered ν) : Numbered ν :=
  { router with mounts := router.mounts.modify number fun mount => (mount.1, below) }

mutual

def perform (stop : Bool) : Step ν → Numbered ν → Numbered ν × Report
  | .handle route callback, router =>
    match router.handle route callback with
    | .error fault => (router, .refused fault)
    | .ok router => (router, .added router.filters.length router.entries.length)
  | .filter pattern callback, router =>
    match router.filter pattern callback with
    | .error fault => (router, .refused fault)
    | .ok router => (router, .added router.filters.length router.entries.length)
  | .mount pattern steps, router =>
    if Router.mountsSelf pattern then
      let (router, nested) := performAll stop steps router
      (router, .mounted router.filters.length router.entries.length nested.reports)
    else match Pattern.compile .mount pattern with
      | .error cause => (router, .refused (.badPattern cause))
      | .ok pattern =>
        let number := router.mounts.length
        let opened := router.openMount pattern
        let (below, nested) := performAll stop steps ((opened.mountAt? number).getD {})
        let router := opened.setMount number below
        (router, .mounted router.filters.length router.entries.length nested.reports)

/-- The numbered router after steps. With `stop` set, a refused step is the last of its list. -/
def performAll (stop : Bool) : List (Step ν) → Numbered ν → Numbered ν × Registered
  | [], router => (router, { complete := true, reports := [] })
  | step :: steps, router =>
    let (router, report) := perform stop step router
    if stop && !report.isOk then (router, { complete := false, reports := [report] })
    else
      let (router, rest) := performAll stop steps router
      (router, rest.cons report)

end

/-! ## What numbered routers stand for -/

end Numbered

/-- `entry.Stands mounts route`: the entry stands for the route, where the mounts are given. -/
inductive Entry.Stands (mounts : List (Pattern × Router ν)) : Entry ν → Route ν → Prop
  | page (pattern : Pattern) (handlers : Dict (Callback ν .handler)) :
      Stands mounts (.page pattern handlers) (.page pattern handlers)
  | mount {number : Nat} {pattern : Pattern} {below : Router ν}
      (h : mounts[number]? = some (pattern, below)) :
      Stands mounts (.mount number) (.mount pattern below.filters below.routes)

namespace Entry

variable {mounts mounts' : List (Pattern × Router ν)} {entries : List (Entry ν)}
  {routes : List (Route ν)}

theorem resolveAll?_eq_some_iff :
    resolveAll? mounts entries = some routes ↔ List.Forall₂ (Stands mounts) entries routes := by
  induction entries generalizing routes with
  | nil => simp [resolveAll?, eq_comm]
  | cons entry rest ih =>
    cases entry with
    | page pattern handlers =>
      rw [resolveAll?, Option.map_eq_some_iff, List.forall₂_cons_left_iff]
      constructor
      · rintro ⟨routes, hrest, rfl⟩
        exact ⟨_, routes, .page pattern handlers, ih.mp hrest, rfl⟩
      · rintro ⟨_, routes, ⟨⟩, hrest, rfl⟩
        exact ⟨routes, ih.mpr hrest, rfl⟩
    | mount number =>
      rw [resolveAll?, List.forall₂_cons_left_iff]
      simp only [bind, Option.bind_eq_some_iff, Option.map_eq_some_iff]
      constructor
      · rintro ⟨⟨pattern, below⟩, hmount, routes, hrest, rfl⟩
        exact ⟨_, routes, .mount hmount, ih.mp hrest, rfl⟩
      · rintro ⟨_, routes, hstands, hrest, rfl⟩
        cases hstands with
        | mount hmount => exact ⟨_, hmount, routes, ih.mpr hrest, rfl⟩

/-- Further mounts at the end of the list change nothing. -/
theorem Stands.append (h : List.Forall₂ (Stands mounts) entries routes)
    (more : List (Pattern × Router ν)) : List.Forall₂ (Stands (mounts ++ more)) entries routes := by
  refine h.imp fun entry route hstands => ?_
  cases hstands with
  | page pattern handlers => exact .page pattern handlers
  | mount hmount =>
    obtain ⟨hlt, -⟩ := List.getElem?_eq_some_iff.mp hmount
    exact .mount ((List.getElem?_append_left hlt).trans hmount)

/-- Binding a handler goes the same way among entries as among the routes they stand for. -/
theorem rebind_cases (spec : RouteSpec) (callback : Callback ν .handler)
    (h : List.Forall₂ (Stands mounts) entries routes) :
    (rebind spec callback entries = none ∧ Route.rebind spec callback routes = none) ∨
      (∃ fault, rebind spec callback entries = some (.error fault) ∧
        Route.rebind spec callback routes = some (.error fault)) ∨
      ∃ entries' routes', rebind spec callback entries = some (.ok entries') ∧
        Route.rebind spec callback routes = some (.ok routes') ∧
        List.Forall₂ (Stands mounts) entries' routes' ∧
        entries'.filterMap number? = entries.filterMap number? := by
  induction h with
  | nil => exact .inl ⟨rfl, rfl⟩
  | @cons entry route entries routes hstands hrest ih =>
    cases hstands with
    | page pattern handlers =>
      by_cases htext : pattern.text = spec.pattern
      · simp only [rebind, Route.rebind, if_pos htext]
        cases Route.bind pattern.text callback spec.methods handlers with
        | error fault => exact .inr (.inl ⟨fault, rfl, rfl⟩)
        | ok bound =>
          exact .inr (.inr ⟨_, _, rfl, rfl, .cons (.page pattern bound) hrest, rfl⟩)
      · simp only [rebind, Route.rebind, if_neg htext]
        obtain ⟨hnone, hnone'⟩ | ⟨fault, hfault, hfault'⟩ |
          ⟨entries', routes', hok, hok', hall, hnumbers⟩ := ih
        · exact .inl ⟨by rw [hnone]; rfl, by rw [hnone']; rfl⟩
        · exact .inr (.inl ⟨fault, by rw [hfault]; rfl, by rw [hfault']; rfl⟩)
        · exact .inr (.inr ⟨_, _, by rw [hok]; rfl, by rw [hok']; rfl,
            .cons (.page pattern handlers) hall, hnumbers⟩)
    | @mount number pattern below hmount =>
      simp only [rebind, Route.rebind]
      obtain ⟨hnone, hnone'⟩ | ⟨fault, hfault, hfault'⟩ |
        ⟨entries', routes', hok, hok', hall, hnumbers⟩ := ih
      · exact .inl ⟨by rw [hnone]; rfl, by rw [hnone']; rfl⟩
      · exact .inr (.inl ⟨fault, by rw [hfault]; rfl, by rw [hfault']; rfl⟩)
      · exact .inr (.inr ⟨_, _, by rw [hok]; rfl, by rw [hok']; rfl, .cons (.mount hmount) hall,
          congrArg (number :: ·) hnumbers⟩)

end Entry

namespace Numbered

/-- The numbered router is in order, and it stands for the router. -/
structure Stands (n : Numbered ν) (router : Router ν) : Prop where
  ordered : n.Ordered
  resolved : n.resolve? = some router

theorem ordered_iff {n : Numbered ν} :
    n.Ordered ↔ n.numbers = List.range n.mounts.length ∧ OrderedAll n.mounts := by
  obtain ⟨filters, entries, mounts⟩ := n
  rw [Ordered]
  rfl

theorem resolve?_eq_some_iff {n : Numbered ν} {router : Router ν} :
    n.resolve? = some router ↔ n.filters = router.filters ∧
      ∃ mounts, resolveAll? n.mounts = some mounts ∧
        List.Forall₂ (Entry.Stands mounts) n.entries router.routes := by
  obtain ⟨filters, entries, mounts⟩ := n
  obtain ⟨filters', routes⟩ := router
  rw [resolve?]
  simp only [bind, Option.bind_eq_some_iff, Option.map_eq_some_iff, Router.mk.injEq,
    Entry.resolveAll?_eq_some_iff]
  constructor
  · rintro ⟨below, hmounts, _, hentries, rfl, rfl⟩
    exact ⟨rfl, below, hmounts, hentries⟩
  · rintro ⟨rfl, below, hmounts, hentries⟩
    exact ⟨below, hmounts, routes, hentries, rfl, rfl⟩

namespace Stands

variable {n below : Numbered ν} {router router' : Router ν}

theorem empty : Stands ({} : Numbered ν) {} := by
  refine ⟨ordered_iff.mpr ⟨rfl, trivial⟩, ?_⟩
  exact resolve?_eq_some_iff.mpr ⟨rfl, [], rfl, .nil⟩

theorem filters_eq (h : n.Stands router) : n.filters = router.filters :=
  (resolve?_eq_some_iff.mp h.resolved).1

theorem length_eq (h : n.Stands router) : n.entries.length = router.routes.length := by
  obtain ⟨-, _, -, hentries⟩ := resolve?_eq_some_iff.mp h.resolved
  exact hentries.length_eq

theorem with_filters (h : n.Stands router) (filters : List (Guard ν)) :
    Stands { n with filters } { router with filters } := by
  obtain ⟨-, mounts, hmounts, hentries⟩ := resolve?_eq_some_iff.mp h.resolved
  have hordered := ordered_iff.mp h.ordered
  exact ⟨ordered_iff.mpr hordered, resolve?_eq_some_iff.mpr ⟨rfl, mounts, hmounts, hentries⟩⟩

/-- Both are refused for the same fault, or both succeed and the results stand for one another. -/
def Agree (a : Except RegistrationFault (Numbered ν)) (b : Except RegistrationFault (Router ν)) :
    Prop :=
  (∃ fault, a = .error fault ∧ b = .error fault) ∨
    ∃ n router, a = .ok n ∧ b = .ok router ∧ n.Stands router

theorem filter (h : n.Stands router) (pattern : String) (callback : Callback ν .filter) :
    Agree (n.filter pattern callback) (router.filter pattern callback) := by
  unfold Numbered.filter Router.filter
  rw [h.filters_eq]
  split
  · exact .inr ⟨_, _, rfl, rfl, h.with_filters _⟩
  · cases Pattern.compile .exact pattern with
    | error cause => exact .inl ⟨_, rfl, rfl⟩
    | ok compiled => exact .inr ⟨_, _, rfl, rfl, h.with_filters _⟩

theorem with_entries (h : n.Stands router) {entries : List (Entry ν)} {routes : List (Route ν)}
    {mounts : List (Pattern × Router ν)} (hmounts : resolveAll? n.mounts = some mounts)
    (hentries : List.Forall₂ (Entry.Stands mounts) entries routes)
    (hnumbers : entries.filterMap Entry.number? = n.numbers) :
    Stands { n with entries } { router with routes } := by
  obtain ⟨hrange, hbelow⟩ := ordered_iff.mp h.ordered
  exact ⟨ordered_iff.mpr ⟨hnumbers.trans hrange, hbelow⟩,
    resolve?_eq_some_iff.mpr ⟨h.filters_eq, mounts, hmounts, hentries⟩⟩

theorem handle (h : n.Stands router) (route : String) (callback : Callback ν .handler) :
    Agree (n.handle route callback) (router.handle route callback) := by
  obtain ⟨-, mounts, hmounts, hentries⟩ := resolve?_eq_some_iff.mp h.resolved
  unfold Numbered.handle Router.handle
  obtain ⟨hnone, hnone'⟩ | ⟨fault, hfault, hfault'⟩ |
      ⟨entries, routes, hok, hok', hall, hnumbers⟩ :=
    Entry.rebind_cases (RouteSpec.parse route) callback hentries
  · simp only [hnone, hnone', Entry.create, Route.create]
    -- a page is put at the end of both lists
    cases Pattern.compile .exact (RouteSpec.parse route).pattern with
    | error cause => exact .inl ⟨_, rfl, rfl⟩
    | ok pattern =>
      cases Route.bind (RouteSpec.parse route).pattern callback (RouteSpec.parse route).methods
          Dict.empty with
      | error fault => exact .inl ⟨_, rfl, rfl⟩
      | ok handlers =>
        refine .inr ⟨_, _, rfl, rfl, h.with_entries hmounts ?_ ?_⟩
        · exact List.rel_append hentries (.cons (.page pattern handlers) .nil)
        · simp [numbers, List.filterMap_append, Entry.number?]
  · simp only [hfault, hfault']
    exact .inl ⟨_, rfl, rfl⟩
  · simp only [hok, hok']
    exact .inr ⟨_, _, rfl, rfl, h.with_entries hmounts hall hnumbers⟩

end Stands

/-! ## Mounts -/

theorem mountAt?_openMount (n : Numbered ν) (pattern : Pattern) :
    (n.openMount pattern).mountAt? n.mounts.length = some {} := by
  simp [mountAt?, openMount]

theorem resolveAll?_append {mounts mounts' : List (Pattern × Numbered ν)}
    {routers routers' : List (Pattern × Router ν)} (h : resolveAll? mounts = some routers)
    (h' : resolveAll? mounts' = some routers') :
    resolveAll? (mounts ++ mounts') = some (routers ++ routers') := by
  induction mounts generalizing routers with
  | nil =>
    obtain rfl : [] = routers := Option.some.inj h
    exact h'
  | cons mount rest ih =>
    obtain ⟨pattern, below⟩ := mount
    rw [resolveAll?] at h
    simp only [bind, Option.bind_eq_some_iff, Option.map_eq_some_iff] at h
    obtain ⟨router, hrouter, routers, hrest, rfl⟩ := h
    rw [List.cons_append, resolveAll?, hrouter]
    exact congrArg (Option.map _) (ih hrest)

theorem orderedAll_append {mounts mounts' : List (Pattern × Numbered ν)} :
    OrderedAll (mounts ++ mounts') ↔ OrderedAll mounts ∧ OrderedAll mounts' := by
  induction mounts with
  | nil => simp [OrderedAll]
  | cons mount rest ih => simp only [List.cons_append, OrderedAll, ih, and_assoc]

theorem length_resolveAll? {mounts : List (Pattern × Numbered ν)}
    {routers : List (Pattern × Router ν)} (h : resolveAll? mounts = some routers) :
    routers.length = mounts.length := by
  induction mounts generalizing routers with
  | nil =>
    obtain rfl : [] = routers := Option.some.inj h
    rfl
  | cons mount rest ih =>
    rw [resolveAll?] at h
    simp only [bind, Option.bind_eq_some_iff, Option.map_eq_some_iff] at h
    obtain ⟨router, -, routers, hrest, rfl⟩ := h
    exact congrArg (· + 1) (ih hrest)

theorem modify_length_append_singleton {α : Type} (l : List α) (a : α) (f : α → α) :
    (l ++ [a]).modify l.length f = l ++ [f a] := by
  rw [List.modify_eq_set_getElem?]
  simp

/-- What is done to the router that was mounted last is done to it alone. -/
theorem setMount_openMount (n below : Numbered ν) (pattern : Pattern) :
    (n.openMount pattern).setMount n.mounts.length below =
      { n with
        entries := n.entries ++ [.mount n.mounts.length]
        mounts := n.mounts ++ [(pattern, below)] } := by
  simp only [setMount, openMount, modify_length_append_singleton]

namespace Stands

variable {n below : Numbered ν} {router router' : Router ν}

theorem mount (h : n.Stands router) (pattern : Pattern) (hbelow : below.Stands router') :
    ((n.openMount pattern).setMount n.mounts.length below).Stands
      (router.mount pattern router') := by
  obtain ⟨hfilters, mounts, hmounts, hentries⟩ := resolve?_eq_some_iff.mp h.resolved
  obtain ⟨hrange, hordered⟩ := ordered_iff.mp h.ordered
  rw [setMount_openMount]
  have hlast : resolveAll? [(pattern, below)] = some [(pattern, router')] := by
    rw [resolveAll?, hbelow.resolved]
    rfl
  have hnumber : (mounts ++ [(pattern, router')])[n.mounts.length]? = some (pattern, router') := by
    rw [← length_resolveAll? hmounts, List.getElem?_concat_length]
  constructor
  · refine ordered_iff.mpr ⟨?_, orderedAll_append.mpr ⟨hordered, hbelow.ordered, trivial⟩⟩
    simp only [numbers] at hrange ⊢
    rw [List.filterMap_append, hrange, List.length_append, List.length_singleton, List.range_succ]
    rfl
  · refine resolve?_eq_some_iff.mpr ⟨hfilters, _, resolveAll?_append hmounts hlast, ?_⟩
    exact List.rel_append (Entry.Stands.append hentries _) (.cons (.mount hnumber) .nil)

end Stands

/-! ## The same steps -/

namespace Stands

variable {n : Numbered ν} {router : Router ν} {stop : Bool}

/-- How one step goes: the results stand for one another and the reports are the same. -/
def Follows (stop : Bool) (step : Step ν) (n : Numbered ν) (router : Router ν) : Prop :=
  (n.perform stop step).1.Stands (step.perform stop router).1 ∧
    (n.perform stop step).2 = (step.perform stop router).2

theorem Follows.cons {step : Step ν} {steps : List (Step ν)} (hstep : Follows stop step n router)
    (ih : ∀ (n : Numbered ν) (router : Router ν), n.Stands router →
      (n.performAll stop steps).1.Stands (Step.performAll stop steps router).1 ∧
        (n.performAll stop steps).2 = (Step.performAll stop steps router).2) :
    (n.performAll stop (step :: steps)).1.Stands (Step.performAll stop (step :: steps) router).1 ∧
      (n.performAll stop (step :: steps)).2 = (Step.performAll stop (step :: steps) router).2 := by
  obtain ⟨hrouter, hreport⟩ := hstep
  rw [Numbered.performAll, Step.performAll]
  simp only [hreport]
  split
  · exact ⟨hrouter, rfl⟩
  · obtain ⟨hrest, hreports⟩ := ih _ _ hrouter
    exact ⟨hrest, congrArg (·.cons (step.perform stop router).2) hreports⟩

/-- The same steps lead from a numbered router and from the router that it stands for to results
that stand for one another, with the same reports. -/
theorem performAll (stop : Bool) (steps : List (Step ν)) : ∀ (n : Numbered ν) (router : Router ν),
    n.Stands router →
      (n.performAll stop steps).1.Stands (Step.performAll stop steps router).1 ∧
        (n.performAll stop steps).2 = (Step.performAll stop steps router).2 := by
  induction steps using Step.list_induction with
  | nil =>
    intro n router h
    rw [Numbered.performAll, Step.performAll]
    exact ⟨h, rfl⟩
  | handle route callback rest ih =>
    refine fun n router h => Follows.cons ?_ ih
    unfold Follows
    rw [Numbered.perform, Step.perform]
    obtain ⟨fault, hn, hrouter⟩ | ⟨n', router', hn, hrouter, h'⟩ := h.handle route callback
    · simp only [hn, hrouter]
      exact ⟨h, trivial⟩
    · simp only [hn, hrouter, h'.filters_eq, h'.length_eq]
      exact ⟨h', trivial⟩
  | filter pattern callback rest ih =>
    refine fun n router h => Follows.cons ?_ ih
    unfold Follows
    rw [Numbered.perform, Step.perform]
    obtain ⟨fault, hn, hrouter⟩ | ⟨n', router', hn, hrouter, h'⟩ := h.filter pattern callback
    · simp only [hn, hrouter]
      exact ⟨h, trivial⟩
    · simp only [hn, hrouter, h'.filters_eq, h'.length_eq]
      exact ⟨h', trivial⟩
  | mount pattern steps rest ihbelow ih =>
    refine fun n router h => Follows.cons ?_ ih
    unfold Follows
    rw [Numbered.perform, Step.perform]
    split
    · obtain ⟨hrouter, hreports⟩ := ihbelow n router h
      simp only [hreports, hrouter.filters_eq, hrouter.length_eq]
      exact ⟨hrouter, trivial⟩
    · cases Pattern.compile .mount pattern with
      | error cause => exact ⟨h, rfl⟩
      | ok compiled =>
        simp only [mountAt?_openMount, Option.getD_some]
        obtain ⟨hbelow, hreports⟩ := ihbelow {} {} .empty
        have hrouter := h.mount compiled hbelow
        simp only [hreports, hrouter.filters_eq, hrouter.length_eq]
        exact ⟨hrouter, trivial⟩

end Stands

end Numbered

end Signpost
