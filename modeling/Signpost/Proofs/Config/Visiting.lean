import Signpost.Proofs.Config.Installed

/-!
# What a configuration has a request visit

A request for a path visits the filters of the root and then goes through the entries of its route
list, in the order in which the file has them, up to the one that decides (`Config.visited`). Each
mount on the way whose pattern the path begins with is entered, and its filters are visited, even if
none of its pages is for the path. The entries stand in the installed router, one route for each, in
this order (`Config.lists_router`).
-/

namespace Signpost

open Http (HeaderName HeaderValue)

variable {ν : Type}

/-- A filter with an empty pattern has none at all. -/
def Guard.Proper (g : Guard ν) : Prop :=
  ∀ pattern, g.pattern = some pattern → pattern.text.isEmpty = false

namespace Config

/-! ## Patterns of a configuration -/

/-- Whether the pattern of a filter or a page matches the path. -/
def fits (text path : String) : Bool :=
  match Pattern.compile .exact text with
  | .error _ => false
  | .ok pattern => pattern.isMatch path

/-- What the pattern of a mount leaves of the path, if that begins with it. -/
def below? (text path : String) : Option String :=
  match Pattern.compile .mount text with
  | .error _ => none
  | .ok pattern => (pattern.matchPrefix? path Dict.empty).map (·.1)

/-! ## The entries of the root -/

/-- An entry of the route list of the root: the pages with one pattern, or a mount that makes a
router of its own. -/
inductive Entry where
  | page (text : String)
  | mount (m : Mount)
  deriving DecidableEq, Repr

/-- The entries after a page. One with a pattern that is there already adds to the earlier entry. -/
def addPage (entries : List Entry) (p : Page) : List Entry :=
  if .page p.text ∈ entries then entries else entries ++ [.page p.text]

/-- The entries after a mount. One below the root adds its pages. -/
def addMount (entries : List Entry) (m : Mount) : List Entry :=
  if Router.mountsSelf m.pattern then m.pages.foldl addPage entries else entries ++ [.mount m]

/-- The entries of the root, in order. -/
def entries (c : Config) : List Entry := c.mounts.foldl addMount (c.pages.foldl addPage [])

namespace Entry

/-- Whether the entry decides a request for the path. -/
def decides (path : String) : Entry → Bool
  | .page text => fits text path
  | .mount m => (below? m.pattern path).any fun suffix => m.pages.any (fits ·.text suffix)

/-- The filters that are visited at the entry, with the path that they see. -/
def visited (path : String) : Entry → List (Filter × String)
  | .page _ => []
  | .mount m => (below? m.pattern path).elim [] fun suffix => m.filters.map (·, suffix)

/-- The filters that are visited up to the entry that decides, that one included. -/
def visitedAll (path : String) : List Entry → List (Filter × String)
  | [] => []
  | entry :: rest => entry.visited path ++ if entry.decides path then [] else visitedAll path rest

/-- The route is what is registered for the entry. -/
def StandsAs : Entry → Route ν → Prop
  | .page text, .page pattern _ => Pattern.compile .exact text = .ok pattern
  | .mount m, .mount pattern filters routes =>
    m.StandsAs (pattern, { filters, routes }) ∧ ∀ g ∈ filters, g.Proper
  | _, _ => False

end Entry

/-- The filters that a request for the path visits, in order, with the path that each of them
sees. -/
def visited (c : Config) (path : String) : List (Filter × String) :=
  c.rootFilters.map (·, path) ++ Entry.visitedAll path c.entries

/-! ## Entries and routes -/

/-- What each of the steps for a list carries on, all of them together carry on along the list. -/
theorem installAll_filterMap {α β : Type} {step? : α → Option (Step ν)} {next : β → α → β}
    {P : β → Router ν → Prop} {l : List α}
    (h : ∀ a ∈ l, ∃ step, step? a = some step ∧ ∀ b router router', P b router →
      step.install router = .ok router' → P (next b a) router') :
    ∀ {b : β} {router router' : Router ν}, P b router →
      Step.installAll (l.filterMap step?) router = .ok router' → P (l.foldl next b) router' := by
  induction l with
  | nil =>
    intro b router router' hP hinstall
    cases hinstall
    exact hP
  | cons a rest ih =>
    intro b router router' hP hinstall
    obtain ⟨⟨step, hstep, hnext⟩, hrest⟩ := List.forall_mem_cons.mp h
    rw [List.filterMap_cons, hstep, Step.installAll] at hinstall
    cases hfirst : step.install router with
    | error fault =>
      rw [hfirst] at hinstall
      cases hinstall
    | ok between =>
      rw [hfirst] at hinstall
      exact ih hrest (hnext b router between hP hfirst) hinstall

theorem forall₂_replace {α β : Type} {R : α → β → Prop} {l : List α} {before after : List β}
    {b b' : β} (h : List.Forall₂ R l (before ++ b :: after)) (hb : ∀ a, R a b → R a b') :
    List.Forall₂ R l (before ++ b' :: after) := by
  have htake := List.forall₂_take_append _ _ _ h
  have hdrop := List.forall₂_drop_append _ _ _ h
  obtain ⟨a, rest, hhead, htail, heq⟩ := List.forall₂_cons_right_iff.mp hdrop
  rw [← List.take_append_drop before.length l, heq]
  exact List.rel_append htake (.cons (hb a hhead) htail)

/-- The routes of the router are those of the entries, in order. -/
structure Lists (entries : List Entry) (router : Router ν) : Prop where
  filters : ∀ g ∈ router.filters, g.Proper
  routes : List.Forall₂ Entry.StandsAs entries router.routes

namespace Lists

variable {entries : List Entry} {router router' : Router ν}

theorem empty : Lists [] ({} : Router ν) := ⟨List.forall_mem_nil _, .nil⟩

theorem page_mem_iff (h : Lists entries router) (text : String) :
    .page text ∈ entries ↔ text ∈ router.pageTexts := by
  obtain ⟨-, hroutes⟩ := h
  unfold Router.pageTexts
  generalize router.routes = routes at hroutes ⊢
  induction hroutes with
  | nil => simp
  | @cons entry route _ _ hstands _ ih =>
    rw [List.mem_cons, List.filterMap_cons, ih]
    cases entry <;> cases route
    case page.page own pattern handlers =>
      have hown : pattern.text = own := Pattern.text_of_compile hstands
      simp [Route.pageText?, hown]
    case mount.mount => simp [Route.pageText?]
    all_goals exact hstands.elim

theorem handle {p : Page} {callback : Callback ν .handler} (h : Lists entries router)
    (hhandle : router.handle p.route callback = .ok router') :
    Lists (addPage entries p) router' := by
  have hmem := h.page_mem_iff p.text
  refine ⟨Router.filters_handle hhandle ▸ h.filters, ?_⟩
  unfold addPage
  obtain ⟨hnew, pattern, bound, hcompile, -, rfl⟩ |
    ⟨before, pattern, handlers, after, bound, hroutes, htext, -, rfl⟩ :=
      Router.handle_cases hhandle
  · rw [if_neg (mt hmem.mp hnew)]
    exact List.rel_append h.routes (.cons hcompile .nil)
  · have hold : p.text ∈ router.pageTexts := by
      rw [Router.pageTexts, hroutes, Page.text, ← htext]
      exact Route.text_mem_pageTexts (List.mem_append_right _ List.mem_cons_self)
    rw [if_pos (hmem.mpr hold)]
    exact forall₂_replace (hroutes ▸ h.routes) fun entry hstands => by cases entry <;> exact hstands

theorem filter {pattern : String} {callback : Callback ν .filter} (h : Lists entries router)
    (hfilter : router.filter pattern callback = .ok router') : Lists entries router' := by
  have hadd {g : Guard ν} (hg : g.Proper) :
      Lists entries { router with filters := router.filters ++ [g] } :=
    ⟨List.forall_mem_append.mpr ⟨h.filters, by simpa using hg⟩, h.routes⟩
  unfold Router.filter at hfilter
  dsimp only at hfilter
  split at hfilter
  · cases hfilter
    exact hadd fun _ hnone => nomatch hnone
  · next hsome =>
    split at hfilter
    · cases hfilter
    · next compiled hcompile =>
      cases hfilter
      refine hadd ?_
      rintro _ ⟨⟩
      rw [Pattern.text_of_compile hcompile]
      exact Bool.eq_false_iff.mpr hsome

theorem installTable {filters : List Filter} {pages : List Page} (hfilters : ∀ f ∈ filters, f.Valid)
    (hpages : ∀ p ∈ pages, p.Valid) (h : Lists entries router)
    (hinstall : Step.installAll (tableSteps filters pages) router = .ok router') :
    Lists (pages.foldl addPage entries) router' := by
  obtain ⟨between, hfirst, hrest⟩ := Step.installAll_append_eq_ok hinstall
  have hbetween : Lists (filters.foldl (fun entries _ => entries) entries) between := by
    refine installAll_filterMap (fun f hf => ?_) h hfirst
    obtain ⟨callback, hstep, -⟩ := (hfilters f hf).step?_eq (ν := ν)
    exact ⟨_, hstep, fun _ _ _ hlists hfilter => hlists.filter hfilter⟩
  rw [List.foldl_fixed] at hbetween
  refine installAll_filterMap (fun p hp => ?_) hbetween hrest
  obtain ⟨callback, hstep, -⟩ := (hpages p hp).step?_eq (ν := ν)
  exact ⟨_, hstep, fun _ _ _ hlists hhandle => hlists.handle hhandle⟩

theorem installMount {m : Mount} (hm : m.Valid) (h : Lists entries router)
    (hinstall : m.step.install router = .ok router') : Lists (addMount entries m) router' := by
  rw [Mount.step, Step.install] at hinstall
  unfold addMount
  split at hinstall
  · next hself =>
    rw [if_pos hself]
    exact h.installTable hm.filters hm.pages hinstall
  · next hown =>
    rw [if_neg hown]
    obtain ⟨pattern, hcompile⟩ := hm.pattern
    rw [hcompile] at hinstall
    have hbelow := holds_empty.installTable (ν := ν) hm.filters hm.pages rfl consistent_nil
      (fun _ hp => absurd hp List.not_mem_nil)
    cases hfirst : Step.installAll (tableSteps m.filters m.pages) ({} : Router ν) with
    | error fault =>
      rw [hfirst] at hinstall
      cases hinstall
    | ok below =>
      rw [hfirst] at hinstall hbelow
      cases hinstall
      obtain ⟨-, hholds, hnone⟩ := hbelow
      have hlists := empty.installTable hm.filters hm.pages hfirst
      have hstands : m.StandsAs (pattern, below) := ⟨hcompile, hholds, hnone⟩
      exact ⟨h.filters, List.rel_append h.routes (.cons ⟨hstands, hlists.filters⟩ .nil)⟩

end Lists

/-- What a configuration without problems installs has the entries for its routes. -/
theorem lists_router {c : Config} (h : c.problems = []) {router : Router ν}
    (hrouter : c.router = .ok router) : Lists c.entries router := by
  obtain ⟨-, hfilters, hpages, hmounts⟩ := (problems_eq_nil_iff c).mp h
  rw [router_eq, steps] at hrouter
  obtain ⟨between, hfirst, hrest⟩ := Step.installAll_append_eq_ok hrouter
  have htable := Lists.empty.installTable hfilters hpages hfirst
  rw [← List.filterMap_eq_map] at hrest
  refine installAll_filterMap (fun m hm => ?_) htable hrest
  exact ⟨_, rfl, fun _ _ _ hlists hmount => hlists.installMount (hmounts m hm) hmount⟩

end Config

end Signpost
