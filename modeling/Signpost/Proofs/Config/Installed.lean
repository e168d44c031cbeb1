import Signpost.Config.Validation
import Signpost.Proofs.Registration.Installing

/-!
# Installed configurations

A configuration without problems is installed as it is written (`Config.InstalledIn`), unless
methods conflict in one of its tables (`Config.settles_router`). The mounts decide what is in a
table: those below the root add to the table of the root, each of the others has one of its own.
-/

namespace Signpost

open Http (HeaderName HeaderValue Status)

variable {ν : Type}

namespace Config

/-! ## Filters and pages without problems -/

/-- A filter that has no problem. -/
structure Filter.Valid (f : Filter) : Prop where
  pattern : f.pattern.isEmpty = true ∨ ∃ pattern, Pattern.compile .exact f.pattern = .ok pattern
  header : ∃ name, HeaderName.ofText? f.header = some name
  value : ∃ value, HeaderValue.ofText? f.value = some value

/-- A page that has no problem. -/
structure Page.Valid (p : Page) : Prop where
  route : ∃ pattern, Pattern.compile .exact (RouteSpec.parse p.route).pattern = .ok pattern
  status : ∃ status, Status.ofCode? p.status = some status
  contentType : ∃ value, HeaderValue.ofText? p.contentType = some value

/-- A mount that has no problem, neither itself nor below it. -/
structure Mount.Valid (m : Mount) : Prop where
  pattern : ∃ pattern, Pattern.compile .mount m.pattern = .ok pattern
  filters : ∀ f ∈ m.filters, f.Valid
  pages : ∀ p ∈ m.pages, p.Valid

theorem check_eq_nil_iff {ok : Bool} {field : String} {flaw : Flaw} :
    check ok field flaw = [] ↔ ok = true := by
  cases ok <;> simp [check]

theorem patternProblems_eq_nil_iff {mode : Pattern.Mode} {field pattern : String} :
    patternProblems mode field pattern = [] ↔
      ∃ compiled, Pattern.compile mode pattern = .ok compiled := by
  unfold patternProblems
  cases Pattern.compile mode pattern <;> simp

theorem listProblems_eq_nil_iff {α : Type} {problems : String → α → List Problem} {Valid : α → Prop}
    (h : ∀ field a, problems field a = [] ↔ Valid a) (field : String) (i : Nat) (l : List α) :
    listProblems problems field i l = [] ↔ ∀ a ∈ l, Valid a := by
  induction l generalizing i with
  | nil => simp [listProblems]
  | cons a rest ih => simp only [listProblems, List.append_eq_nil_iff, h, ih, List.forall_mem_cons]

theorem Filter.problems_eq_nil_iff (field : String) (f : Filter) :
    f.problems field = [] ↔ f.Valid := by
  have hpattern : (if f.pattern.isEmpty then [] else
      patternProblems .exact (field ++ ".pattern") f.pattern) = [] ↔
      f.pattern.isEmpty = true ∨ ∃ pattern, Pattern.compile .exact f.pattern = .ok pattern := by
    split
    · next hempty => simp [hempty]
    · next hsome => simp [hsome, patternProblems_eq_nil_iff]
  simp only [Filter.problems, headerValueProblems, List.append_eq_nil_iff, hpattern,
    check_eq_nil_iff, Option.isSome_iff_exists]
  exact ⟨fun h => ⟨h.1.1, h.1.2, h.2⟩, fun h => ⟨⟨h.pattern, h.header⟩, h.value⟩⟩

theorem Page.problems_eq_nil_iff (field : String) (p : Page) :
    p.problems field = [] ↔ p.Valid := by
  simp only [Page.problems, headerValueProblems, List.append_eq_nil_iff, check_eq_nil_iff,
    patternProblems_eq_nil_iff, Option.isSome_iff_exists]
  exact ⟨fun h => ⟨h.1.1, h.1.2, h.2⟩, fun h => ⟨⟨h.route, h.status⟩, h.contentType⟩⟩

theorem Mount.problems_eq_nil_iff (field : String) (m : Mount) :
    m.problems field = [] ↔ m.Valid := by
  simp only [Mount.problems, List.append_eq_nil_iff, patternProblems_eq_nil_iff,
    listProblems_eq_nil_iff Filter.problems_eq_nil_iff,
    listProblems_eq_nil_iff Page.problems_eq_nil_iff]
  exact ⟨fun h => ⟨h.1.1, h.1.2, h.2⟩, fun h => ⟨⟨h.pattern, h.filters⟩, h.pages⟩⟩

theorem problems_eq_nil_iff (c : Config) : c.problems = [] ↔
    c.server.problems = [] ∧ (∀ f ∈ c.filters, f.Valid) ∧ (∀ p ∈ c.pages, p.Valid) ∧
      ∀ m ∈ c.mounts, m.Valid := by
  simp only [problems, List.append_eq_nil_iff, and_assoc,
    listProblems_eq_nil_iff Filter.problems_eq_nil_iff,
    listProblems_eq_nil_iff Page.problems_eq_nil_iff,
    listProblems_eq_nil_iff Mount.problems_eq_nil_iff]

/-! ## The steps of filters and pages -/

/-- The callback sets the header of the filter. -/
def Filter.Sets (f : Filter) (callback : Callback ν .filter) : Prop :=
  ∃ name value, HeaderName.ofText? f.header = some name ∧
    HeaderValue.ofText? f.value = some value ∧ callback = Callback.addHeader name value

/-- The callback answers with the status, the body and the content type of the page. -/
def Page.Answers (p : Page) (callback : Callback ν .handler) : Prop :=
  ∃ status value, Status.ofCode? p.status = some status ∧
    HeaderValue.ofText? p.contentType = some value ∧
    callback = Callback.respond status p.body (some value)

theorem Filter.Valid.step?_eq {f : Filter} (h : f.Valid) :
    ∃ callback : Callback ν .filter,
      f.step? = some (.filter f.pattern callback) ∧ f.Sets callback := by
  obtain ⟨name, hname⟩ := h.header
  obtain ⟨value, hvalue⟩ := h.value
  exact ⟨Callback.addHeader name value, by simp [Filter.step?, hname, hvalue], name, value, hname,
    hvalue, rfl⟩

theorem Page.Valid.step?_eq {p : Page} (h : p.Valid) :
    ∃ callback : Callback ν .handler,
      p.step? = some (.handle p.route callback) ∧ p.Answers callback := by
  obtain ⟨status, hstatus⟩ := h.status
  obtain ⟨value, hvalue⟩ := h.contentType
  exact ⟨Callback.respond status p.body (some value), by simp [Page.step?, hstatus, hvalue],
    status, value, hstatus, hvalue, rfl⟩

theorem Page.Answers.unique {p : Page} {callback callback' : Callback ν .handler}
    (h : p.Answers callback) (h' : p.Answers callback') : callback' = callback := by
  obtain ⟨status, value, hstatus, hvalue, rfl⟩ := h
  obtain ⟨status', value', hstatus', hvalue', rfl⟩ := h'
  cases hstatus.symm.trans hstatus'
  cases hvalue.symm.trans hvalue'
  rfl

/-! ## Tables -/

def Page.text (p : Page) : String := (RouteSpec.parse p.route).pattern

def Page.methods (p : Page) : List String := (RouteSpec.parse p.route).methods

/-- The pages have the same pattern and a common method. -/
def Page.Clashes (p q : Page) : Prop := p.text = q.text ∧ ∃ method ∈ p.methods, method ∈ q.methods

/-- No page of the table gives a method twice and no two pages clash. -/
def Consistent (pages : List Page) : Prop :=
  (∀ p ∈ pages, p.methods.Nodup) ∧ pages.Pairwise fun p q => ¬p.Clashes q

/-- The mounts below the root, which make no router of their own. -/
def selfMounts (mounts : List Mount) : List Mount :=
  mounts.filter fun m => Router.mountsSelf m.pattern

/-- The mounts that make a router of their own. -/
def ownMounts (mounts : List Mount) : List Mount :=
  mounts.filter fun m => !Router.mountsSelf m.pattern

def rootFilters (c : Config) : List Filter := c.filters ++ (selfMounts c.mounts).flatMap (·.filters)

def rootPages (c : Config) : List Page := c.pages ++ (selfMounts c.mounts).flatMap (·.pages)

/-- The tables of pages: that of the root and one for each mount that makes a router. -/
def tables (c : Config) : List (List Page) := c.rootPages :: (ownMounts c.mounts).map (·.pages)

/-- In one of the tables a page gives a method twice or two pages clash. -/
def Conflicting (c : Config) : Prop := ∃ pages ∈ c.tables, ¬Consistent pages

instance (p q : Page) : Decidable (p.Clashes q) :=
  inferInstanceAs (Decidable (p.text = q.text ∧ ∃ method ∈ p.methods, method ∈ q.methods))

instance (pages : List Page) : Decidable (Consistent pages) :=
  inferInstanceAs
    (Decidable ((∀ p ∈ pages, p.methods.Nodup) ∧ pages.Pairwise fun p q => ¬p.Clashes q))

instance (c : Config) : Decidable c.Conflicting :=
  inferInstanceAs (Decidable (∃ pages ∈ c.tables, ¬Consistent pages))

theorem Consistent.of_append {pages pages' : List Page} (h : Consistent (pages ++ pages')) :
    Consistent pages :=
  ⟨fun p hp => h.1 p (List.mem_append_left _ hp), (List.pairwise_append.mp h.2).1⟩

theorem consistent_append_singleton_iff (pages : List Page) (p : Page) :
    Consistent (pages ++ [p]) ↔
      Consistent pages ∧ p.methods.Nodup ∧ ∀ q ∈ pages, ¬q.Clashes p := by
  simp only [Consistent, List.forall_mem_append, List.forall_mem_singleton, List.pairwise_append,
    List.pairwise_singleton, true_and]
  constructor
  · exact fun h => ⟨⟨h.1.1, h.2.1⟩, h.1.2, h.2.2⟩
  · exact fun h => ⟨⟨h.1.1, h.2.1⟩, h.1.2, h.2.2⟩

/-! ## What a router holds -/

/-- The guard is for the paths of the filter and sets its header. -/
def Filter.StandsAs (f : Filter) (g : Guard ν) : Prop :=
  f.Sets g.callback ∧
    (f.pattern.isEmpty = true ∧ g.pattern = none ∨
      ∃ pattern, Pattern.compile .exact f.pattern = .ok pattern ∧ g.pattern = some pattern)

/-- The router has the filters in their order, and exactly the pages, each with its answer for each
of its methods. -/
structure Holds (filters : List Filter) (pages : List Page) (router : Router ν) : Prop where
  filters : List.Forall₂ Filter.StandsAs filters router.filters
  texts : ∀ text, text ∈ router.pageTexts ↔ ∃ p ∈ pages, p.text = text
  serves : ∀ text method callback, router.Serves text method callback ↔
    ∃ p ∈ pages, p.text = text ∧ method ∈ p.methods ∧ p.Answers callback
  compiled : router.Compiled
  distinct : router.Everywhere Router.Distinct

/-- The mount stands in a router with its pattern and a router that holds its filters and pages. -/
def Mount.StandsAs (m : Mount) (mounted : Pattern × Router ν) : Prop :=
  Pattern.compile .mount m.pattern = .ok mounted.1 ∧ Holds m.filters m.pages mounted.2 ∧
    mounted.2.mounts = []

/-- The router is the configuration as it is written. -/
def InstalledIn (c : Config) (router : Router ν) : Prop :=
  Holds c.rootFilters c.rootPages router ∧
    List.Forall₂ Mount.StandsAs (ownMounts c.mounts) router.mounts

/-- What is installed holds something exactly if it is in order, and fails for a conflict
otherwise. -/
def Settles (inOrder : Prop) (holds : Router ν → Prop) :
    Except RegistrationFault (Router ν) → Prop
  | .ok router => inOrder ∧ holds router
  | .error fault => ¬inOrder ∧ ∃ text method, fault = .conflict text method

section Installing

variable {filters : List Filter} {pages : List Page} {router : Router ν}

theorem Settles.bind {inOrder inOrder' : Prop} {holds holds' : Router ν → Prop}
    {result : Except RegistrationFault (Router ν)}
    {next : Router ν → Except RegistrationFault (Router ν)} (h : Settles inOrder holds result)
    (hnext : ∀ router, inOrder → holds router → Settles inOrder' holds' (next router))
    (hearlier : inOrder' → inOrder) : Settles inOrder' holds' (result.bind next) := by
  cases result with
  | error fault => exact ⟨fun hinOrder => h.1 (hearlier hinOrder), h.2⟩
  | ok router => exact hnext router h.1 h.2

theorem Settles.imp {inOrder inOrder' : Prop} {holds holds' : Router ν → Prop}
    {result : Except RegistrationFault (Router ν)} (h : Settles inOrder holds result)
    (hinOrder : inOrder ↔ inOrder') (hholds : ∀ router, holds router → holds' router) :
    Settles inOrder' holds' result := by
  cases result with
  | error fault => exact ⟨fun h' => h.1 (hinOrder.mpr h'), h.2⟩
  | ok router => exact ⟨hinOrder.mp h.1, hholds router h.2⟩

theorem holds_empty : Holds [] [] ({} : Router ν) where
  filters := .nil
  texts text := by simp [Router.pageTexts]
  serves text method callback := by simp [Router.Serves]
  compiled := Router.lasting_compiled.empty
  distinct := Router.lasting_distinct.everywhere_empty

theorem Holds.binds_iff (h : Holds filters pages router) (hvalid : ∀ p ∈ pages, p.Valid)
    (text method : String) :
    router.Binds text method ↔ ∃ p ∈ pages, p.text = text ∧ method ∈ p.methods := by
  rw [Router.binds_iff_serves]
  constructor
  · rintro ⟨callback, hserves⟩
    obtain ⟨p, hp, htext, hmethod, -⟩ := (h.serves text method callback).mp hserves
    exact ⟨p, hp, htext, hmethod⟩
  · rintro ⟨p, hp, htext, hmethod⟩
    obtain ⟨callback, -, hanswers⟩ := (hvalid p hp).step?_eq (ν := ν)
    exact ⟨callback, (h.serves text method callback).mpr ⟨p, hp, htext, hmethod, hanswers⟩⟩

/-- Filters without problems are always installed. -/
theorem Holds.installFilters {mounts : List (Pattern × Router ν)} (added : List Filter)
    (hadded : ∀ f ∈ added, f.Valid) {filters : List Filter} {router : Router ν}
    (h : Holds filters pages router) (hmounts : router.mounts = mounts) :
    ∃ router', Step.installAll (added.filterMap Filter.step?) router = .ok router' ∧
      Holds (filters ++ added) pages router' ∧ router'.mounts = mounts := by
  induction added generalizing filters router with
  | nil => exact ⟨router, rfl, by rwa [List.append_nil], hmounts⟩
  | cons f rest ih =>
    obtain ⟨hf, hrest⟩ := List.forall_mem_cons.mp hadded
    obtain ⟨callback, hstep, hsets⟩ := hf.step?_eq (ν := ν)
    obtain ⟨g, hfilter, hstands⟩ : ∃ g : Guard ν, router.filter f.pattern callback =
        .ok { router with filters := router.filters ++ [g] } ∧ f.StandsAs g := by
      unfold Router.filter
      by_cases hempty : f.pattern.isEmpty = true
      · rw [if_pos hempty]
        exact ⟨_, rfl, hsets, .inl ⟨hempty, rfl⟩⟩
      · obtain ⟨pattern, hcompile⟩ := hf.pattern.resolve_left hempty
        rw [if_neg hempty, hcompile]
        exact ⟨_, rfl, hsets, .inr ⟨pattern, hcompile, rfl⟩⟩
    have hholds : Holds (filters ++ [f]) pages
        { router with filters := router.filters ++ [g] } :=
      { filters := List.rel_append h.filters (.cons hstands .nil)
        texts := h.texts
        serves := h.serves
        compiled := h.compiled
        distinct := h.distinct }
    obtain ⟨router', hinstall, hholds', hmounts'⟩ := ih hrest hholds hmounts
    refine ⟨router', ?_, by rwa [List.append_cons], hmounts'⟩
    rw [List.filterMap_cons, hstep, Step.installAll, Step.install, hfilter]
    exact hinstall

/-- One page is installed unless it conflicts with those that are there. -/
theorem Holds.installPage {mounts : List (Pattern × Router ν)} (h : Holds filters pages router)
    (hmounts : router.mounts = mounts) (hconsistent : Consistent pages)
    (hpages : ∀ p ∈ pages, p.Valid) {p : Page} (hp : p.Valid) {callback : Callback ν .handler}
    (hanswers : p.Answers callback) :
    Settles (Consistent (pages ++ [p]))
      (fun router' => Holds filters (pages ++ [p]) router' ∧ router'.mounts = mounts)
      (router.handle p.route callback) := by
  obtain ⟨pattern, hcompile⟩ := hp.route
  have hclash : (∃ method ∈ p.methods, router.Binds p.text method) ↔
      ¬∀ q ∈ pages, ¬q.Clashes p := by
    simp only [h.binds_iff hpages, not_forall, not_not, exists_prop, Page.Clashes]
    constructor
    · rintro ⟨method, hmethod, q, hq, htext, hbound⟩
      exact ⟨q, hq, htext, method, hbound, hmethod⟩
    · rintro ⟨q, hq, htext, method, hbound, hmethod⟩
      exact ⟨method, hmethod, q, hq, htext, hbound⟩
  have hrefused : (∃ fault, router.handle p.route callback = .error fault) ↔
      ¬Consistent (pages ++ [p]) := by
    rw [h.distinct.1.handle_eq_error_iff, consistent_append_singleton_iff]
    simp only [hcompile, reduceCtorEq, exists_false, and_false, false_or, hconsistent, true_and,
      not_and_or]
    exact or_congr Iff.rfl hclash
  cases hhandle : router.handle p.route callback with
  | error fault =>
    exact ⟨hrefused.mp ⟨fault, hhandle⟩, Router.handle_eq_error hcompile hhandle⟩
  | ok router' =>
    have hinOrder : Consistent (pages ++ [p]) := by
      by_contra hnot
      obtain ⟨fault, herror⟩ := hrefused.mpr hnot
      cases hhandle.symm.trans herror
    refine ⟨hinOrder, ?_, (Router.mounts_handle hhandle).trans hmounts⟩
    exact
      { filters := Router.filters_handle hhandle ▸ h.filters
        texts := fun text => by
          rw [Router.mem_pageTexts_handle hhandle, h.texts]
          simp [or_and_right, exists_or, Page.text]
        serves := fun text method served => by
          have hserved : p.Answers served ↔ served = callback :=
            ⟨fun hserved => hanswers.unique hserved, fun heq => heq ▸ hanswers⟩
          rw [Router.serves_handle hhandle, h.serves]
          simp [or_and_right, exists_or, Page.text, Page.methods, hserved]
        compiled := h.compiled.handle hhandle
        distinct := h.distinct.handle Router.lasting_distinct hhandle }

/-- Pages are installed unless one conflicts with another or with those that are there. -/
theorem Holds.installPages {mounts : List (Pattern × Router ν)} (added : List Page)
    (hadded : ∀ p ∈ added, p.Valid) {pages : List Page} {router : Router ν}
    (h : Holds filters pages router) (hmounts : router.mounts = mounts)
    (hconsistent : Consistent pages) (hpages : ∀ p ∈ pages, p.Valid) :
    Settles (Consistent (pages ++ added))
      (fun router' => Holds filters (pages ++ added) router' ∧ router'.mounts = mounts)
      (Step.installAll (added.filterMap Page.step?) router) := by
  induction added generalizing pages router with
  | nil =>
    rw [List.append_nil]
    exact ⟨hconsistent, h, hmounts⟩
  | cons p rest ih =>
    obtain ⟨hp, hrest⟩ := List.forall_mem_cons.mp hadded
    obtain ⟨callback, hstep, hanswers⟩ := hp.step?_eq (ν := ν)
    rw [List.filterMap_cons, hstep, List.append_cons]
    refine Settles.bind (h.installPage hmounts hconsistent hpages hp hanswers) ?_ (·.of_append)
    intro router' hinOrder hholds
    refine ih hrest hholds.1 hholds.2 hinOrder (List.forall_mem_append.mpr ⟨hpages, ?_⟩)
    simpa using hp

/-- So are a table's filters and pages together. -/
theorem Holds.installTable {mounts : List (Pattern × Router ν)} {moreFilters : List Filter}
    {morePages : List Page} (hfilters : ∀ f ∈ moreFilters, f.Valid)
    (hmore : ∀ p ∈ morePages, p.Valid) (h : Holds filters pages router)
    (hmounts : router.mounts = mounts) (hconsistent : Consistent pages)
    (hpages : ∀ p ∈ pages, p.Valid) :
    Settles (Consistent (pages ++ morePages))
      (fun router' => Holds (filters ++ moreFilters) (pages ++ morePages) router' ∧
        router'.mounts = mounts)
      (Step.installAll (tableSteps moreFilters morePages) router) := by
  obtain ⟨router', hinstall, hholds, hmounts'⟩ := h.installFilters moreFilters hfilters hmounts
  rw [tableSteps, Step.installAll_append, hinstall]
  exact hholds.installPages morePages hmore hmounts' hconsistent hpages

theorem Holds.mount {mounts : List (Pattern × Router ν)} (h : Holds filters pages router)
    (hmounts : router.mounts = mounts) (pattern : Pattern) {below : Router ν}
    (hbelow : below.Everywhere Router.Distinct) :
    Holds filters pages (router.mount pattern below) ∧
      (router.mount pattern below).mounts = mounts ++ [(pattern, below)] := by
  have hpage : ∀ found handlers, .page found handlers ∈ (router.mount pattern below).routes ↔
      .page found handlers ∈ router.routes := by
    simp [Router.mount]
  refine ⟨?_, by simp [Router.mounts, Router.mount, Route.mounted?, ← hmounts]⟩
  exact
    { filters := h.filters
      texts := fun text => by
        have htexts : (router.mount pattern below).pageTexts = router.pageTexts := by
          simp [Router.pageTexts, Router.mount, Route.pageText?]
        rw [htexts, h.texts]
      serves := fun text method callback => by
        rw [← h.serves]
        simp only [Router.Serves, hpage]
      compiled := Router.lasting_compiled.mount pattern below h.compiled
      distinct := h.distinct.mount Router.lasting_distinct pattern hbelow }

theorem consistent_nil : Consistent [] := ⟨fun _ hp => absurd hp List.not_mem_nil, .nil⟩

/-- Mounts are installed unless pages of one table conflict; those below the root add to the table
of the router itself. -/
theorem Holds.installMounts (added : List Mount) (hadded : ∀ m ∈ added, m.Valid)
    {filters : List Filter} {pages : List Page} {mounts : List Mount} {router : Router ν}
    (h : Holds filters pages router) (hmounts : List.Forall₂ Mount.StandsAs mounts router.mounts)
    (hconsistent : Consistent pages) (hpages : ∀ p ∈ pages, p.Valid) :
    Settles (Consistent (pages ++ (selfMounts added).flatMap (·.pages)) ∧
        ∀ m ∈ ownMounts added, Consistent m.pages)
      (fun router' => Holds (filters ++ (selfMounts added).flatMap (·.filters))
          (pages ++ (selfMounts added).flatMap (·.pages)) router' ∧
        List.Forall₂ Mount.StandsAs (mounts ++ ownMounts added) router'.mounts)
      (Step.installAll (added.map Mount.step) router) := by
  induction added generalizing filters pages mounts router with
  | nil =>
    simp only [selfMounts, ownMounts, List.filter_nil, List.flatMap_nil, List.append_nil]
    exact ⟨⟨hconsistent, fun m hm => absurd hm List.not_mem_nil⟩, h, hmounts⟩
  | cons m rest ih =>
    obtain ⟨hm, hrest⟩ := List.forall_mem_cons.mp hadded
    rw [List.map_cons, Step.installAll, Mount.step, Step.install]
    by_cases hself : Router.mountsSelf m.pattern = true
    · have hselves : selfMounts (m :: rest) = m :: selfMounts rest :=
        List.filter_cons_of_pos hself
      have howns : ownMounts (m :: rest) = ownMounts rest :=
        List.filter_cons_of_neg (by simp [hself])
      rw [if_pos hself, hselves, howns, List.flatMap_cons, List.flatMap_cons, ← List.append_assoc,
        ← List.append_assoc]
      refine Settles.bind (h.installTable hm.filters hm.pages rfl hconsistent hpages) ?_
        fun hinOrder => hinOrder.1.of_append
      intro router' hinOrder hholds
      exact ih hrest hholds.1 (hholds.2 ▸ hmounts) hinOrder
        (List.forall_mem_append.mpr ⟨hpages, hm.pages⟩)
    · have hselves : selfMounts (m :: rest) = selfMounts rest := List.filter_cons_of_neg hself
      have howns : ownMounts (m :: rest) = m :: ownMounts rest :=
        List.filter_cons_of_pos (by simp [hself])
      obtain ⟨pattern, hcompile⟩ := hm.pattern
      rw [if_neg hself, hcompile, hselves, howns, List.append_cons]
      have hbelow := holds_empty.installTable (ν := ν) hm.filters hm.pages rfl consistent_nil
        (fun _ hp => absurd hp List.not_mem_nil)
      simp only [List.nil_append] at hbelow
      cases hinstall : Step.installAll (tableSteps m.filters m.pages) ({} : Router ν) with
      | error fault =>
        rw [hinstall] at hbelow
        exact ⟨fun hinOrder => hbelow.1 (hinOrder.2 m List.mem_cons_self), hbelow.2⟩
      | ok below =>
        rw [hinstall] at hbelow
        obtain ⟨hown, hholds, hnone⟩ := hbelow
        obtain ⟨hmount, hmounted⟩ := h.mount rfl pattern hholds.distinct
        have hstands : List.Forall₂ Mount.StandsAs (mounts ++ [m])
            (router.mount pattern below).mounts := by
          rw [hmounted]
          exact List.rel_append hmounts (.cons ⟨hcompile, hholds, hnone⟩ .nil)
        refine Settles.imp (ih hrest hmount hstands hconsistent hpages) ?_ fun _ => id
        simp only [List.forall_mem_cons, hown, true_and]

end Installing

/-- A configuration without problems is installed as it is written, unless pages of one table
conflict. -/
theorem settles_router (c : Config) (h : c.problems = []) :
    Settles (¬c.Conflicting) c.InstalledIn (c.router : Except RegistrationFault (Router ν)) := by
  obtain ⟨-, hfilters, hpages, hmounts⟩ := (problems_eq_nil_iff c).mp h
  have htable := holds_empty.installTable (ν := ν) hfilters hpages rfl consistent_nil
    (fun _ hp => absurd hp List.not_mem_nil)
  simp only [List.nil_append] at htable
  rw [router_eq, steps, Step.installAll_append]
  refine Settles.bind htable ?_ ?_
  · intro router hinOrder hholds
    have hnone : List.Forall₂ Mount.StandsAs [] router.mounts := by
      rw [hholds.2]
      exact .nil
    refine Settles.imp (hholds.1.installMounts c.mounts hmounts hnone hinOrder hpages) ?_
      fun _ => id
    simp only [Conflicting, tables, List.mem_cons, List.mem_map, not_exists, not_and, not_not,
      forall_eq_or_imp, forall_exists_index, and_imp, forall_apply_eq_imp_iff₂]
    rfl
  · intro hinOrder
    by_contra hnot
    exact hinOrder ⟨c.rootPages, List.mem_cons_self, fun hroot => hnot hroot.of_append⟩

end Config

end Signpost
