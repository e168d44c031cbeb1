import Signpost.Proofs.Config.Installed

/-!
# Checked configurations can be installed

If nothing is wrong with a configuration, no filter and no page is left out when it is installed, no
content type is dropped, and only conflicts of methods keep it from being installed. The other way
round, each problem that is not one of the settings of the server is one of a filter, a page or a
mount that cannot be installed as it is written even alone (`Config.adequate`).
-/

namespace Signpost

open Http (HeaderName HeaderValue Status)

variable {ν : Type}

namespace Config

/-! ## What is left out -/

/-- The filters, wherever they stand. -/
def everyFilter (c : Config) : List Filter := c.filters ++ c.mounts.flatMap (·.filters)

/-- The pages, wherever they stand. -/
def everyPage (c : Config) : List Page := c.pages ++ c.mounts.flatMap (·.pages)

/-- A filter or a page has no step. -/
def Skips (ν : Type) (c : Config) : Prop :=
  (∃ f ∈ c.everyFilter, (f.step? : Option (Step ν)) = none) ∨
    ∃ p ∈ c.everyPage, (p.step? : Option (Step ν)) = none

/-- The step of a page answers without its content type. -/
def DropsContentType (c : Config) : Prop :=
  ∃ p ∈ c.everyPage, HeaderValue.ofText? p.contentType = none

/-! ## What has a problem -/

/-- One thing that a configuration installs. -/
inductive Item where
  | filter (f : Filter)
  | page (p : Page)
  /-- A mount without what is below it. -/
  | mount (m : Mount)

namespace Item

/-- The problems of the item itself. -/
def problems (field : String) : Item → List Problem
  | .filter f => f.problems field
  | .page p => p.problems field
  | .mount m => patternProblems .mount (field ++ ".prefix") m.pattern

/-- The configuration that installs nothing else. -/
def alone : Item → Config
  | .filter f => { filters := [f] }
  | .page p => { pages := [p] }
  | .mount m => { mounts := [m] }

end Item

/-- The items that the elements of a list have, with their fields; the first element has the
index `i`. -/
def located {α : Type} (items : String → α → List (String × Item)) (field : String) :
    (i : Nat) → List α → List (String × Item)
  | _, [] => []
  | i, a :: rest =>
    items (field ++ "[" ++ toString i ++ "]") a ++ located items field (i + 1) rest

def Filter.items (field : String) (f : Filter) : List (String × Item) := [(field, .filter f)]

def Page.items (field : String) (p : Page) : List (String × Item) := [(field, .page p)]

def Mount.items (field : String) (m : Mount) : List (String × Item) :=
  (field, .mount m) :: located Filter.items (field ++ ".filters") 0 m.filters ++
    located Page.items (field ++ ".routes") 0 m.pages

/-- All that the configuration installs, with the fields where it stands. -/
def items (c : Config) : List (String × Item) :=
  located Filter.items "filters" 0 c.filters ++ located Page.items "routes" 0 c.pages ++
    located Mount.items "mounts" 0 c.mounts

/-- The problems of items, in order. -/
def itemProblems (items : List (String × Item)) : List Problem :=
  items.flatMap fun item => item.2.problems item.1

theorem itemProblems_append (items items' : List (String × Item)) :
    itemProblems (items ++ items') = itemProblems items ++ itemProblems items' :=
  List.flatMap_append

theorem itemProblems_located {α : Type} {items : String → α → List (String × Item)}
    {problems : String → α → List Problem}
    (h : ∀ field a, itemProblems (items field a) = problems field a) (field : String) (i : Nat)
    (l : List α) : itemProblems (located items field i l) = listProblems problems field i l := by
  induction l generalizing i with
  | nil => rfl
  | cons a rest ih => rw [located, listProblems, itemProblems_append, h, ih]

theorem itemProblems_filter (field : String) (f : Filter) :
    itemProblems (f.items field) = f.problems field := List.flatMap_singleton ..

theorem itemProblems_page (field : String) (p : Page) :
    itemProblems (p.items field) = p.problems field := List.flatMap_singleton ..

theorem itemProblems_mount (field : String) (m : Mount) :
    itemProblems (m.items field) = m.problems field := by
  rw [Mount.items, itemProblems_append, itemProblems_located itemProblems_page, Mount.problems]
  exact congrArg (_ ++ · ++ _) (itemProblems_located itemProblems_filter _ _ _)

/-- Besides the settings of the server, problems are those of items. -/
theorem problems_eq (c : Config) :
    c.problems = c.server.problems ++ itemProblems c.items := by
  rw [items, itemProblems_append, itemProblems_append, itemProblems_located itemProblems_filter,
    itemProblems_located itemProblems_page, itemProblems_located itemProblems_mount, problems,
    List.append_assoc, List.append_assoc, List.append_assoc]

/-- The fields of the settings that are checked. -/
def Server.fields : List String :=
  ["server.bind_address", "server.base_path", "server.request_timeout_secs"]

theorem Server.field_mem (s : Server) {problem : Problem} (h : problem ∈ s.problems) :
    problem.field ∈ Server.fields := by
  have hcheck : ∀ {ok : Bool} {field : String} {flaw : Flaw},
      problem ∈ check ok field flaw → problem.field = field := by
    intro ok field flaw hmem
    unfold check at hmem
    split at hmem
    · cases hmem
    · rw [List.mem_singleton.mp hmem]
  simp only [Server.problems, List.mem_append] at h
  obtain (h | h) | h := h
  · exact hcheck h ▸ by decide
  · exact hcheck h ▸ by decide
  · exact hcheck h ▸ by decide

/-- What cannot be installed alone as it is written: it is refused, left out, or loses its content
type. -/
def Item.Unfit (ν : Type) (item : Item) : Prop :=
  (∃ fault, (item.alone.router : Except RegistrationFault (Router ν)) = .error fault) ∨
    item.alone.Skips ν ∨ item.alone.DropsContentType

theorem Filter.unfit_of_not_valid {f : Filter} (h : ¬f.Valid) : (Item.filter f).Unfit ν := by
  have hskips : (f.step? : Option (Step ν)) = none → (Item.filter f).Unfit ν :=
    fun hnone => .inr (.inl (.inl ⟨f, List.mem_cons_self, hnone⟩))
  cases hname : HeaderName.ofText? f.header with
  | none => exact hskips (by simp [Filter.step?, hname])
  | some name =>
    cases hvalue : HeaderValue.ofText? f.value with
    | none => exact hskips (by simp [Filter.step?, hvalue])
    | some value =>
      have hpattern : ¬(f.pattern.isEmpty = true ∨
          ∃ pattern, Pattern.compile .exact f.pattern = .ok pattern) :=
        fun hpattern => h ⟨hpattern, ⟨name, hname⟩, value, hvalue⟩
      obtain ⟨hsome, hcompile⟩ := not_or.mp hpattern
      cases hresult : Pattern.compile .exact f.pattern with
      | ok pattern => exact absurd ⟨pattern, hresult⟩ hcompile
      | error cause =>
        refine .inl ⟨.badPattern cause, ?_⟩
        simp [router_eq, Item.alone, steps, tableSteps, Filter.step?, hname, hvalue,
          Step.installAll, Step.install, Router.filter, hsome, hresult, Except.bind]

theorem Page.unfit_of_not_valid {p : Page} (h : ¬p.Valid) : (Item.page p).Unfit ν := by
  cases hstatus : Status.ofCode? p.status with
  | none =>
    have hnone : (p.step? : Option (Step ν)) = none := by simp [Page.step?, hstatus]
    exact .inr (.inl (.inr ⟨p, List.mem_cons_self, hnone⟩))
  | some status =>
    cases hvalue : HeaderValue.ofText? p.contentType with
    | none => exact .inr (.inr ⟨p, List.mem_cons_self, hvalue⟩)
    | some value =>
      cases hresult : Pattern.compile .exact (RouteSpec.parse p.route).pattern with
      | ok pattern => exact absurd ⟨⟨pattern, hresult⟩, ⟨status, hstatus⟩, value, hvalue⟩ h
      | error cause =>
        refine .inl ⟨.badPattern cause, ?_⟩
        simp [router_eq, Item.alone, steps, tableSteps, Page.step?, hstatus, Step.installAll,
          Step.install, Router.handle, Route.rebind, Route.create, hresult, Except.map,
          Except.bind]

theorem compile_mount_root :
    (Pattern.compile .mount "").isOk = true ∧ (Pattern.compile .mount "/").isOk = true := by
  decide +kernel

theorem Mount.unfit_of_error {m : Mount} {cause : Pattern.Fault}
    (h : Pattern.compile .mount m.pattern = .error cause) : (Item.mount m).Unfit ν := by
  have hself : Router.mountsSelf m.pattern = false := by
    by_contra hself
    have hroot : m.pattern = "" ∨ m.pattern = "/" := by
      simpa [Router.mountsSelf, or_iff_not_imp_left] using hself
    obtain hroot | hroot := hroot
    · have hok := compile_mount_root.1
      rw [← hroot, h] at hok
      cases hok
    · have hok := compile_mount_root.2
      rw [← hroot, h] at hok
      cases hok
  refine .inl ⟨.badPattern cause, ?_⟩
  simp [router_eq, Item.alone, steps, tableSteps, Mount.step, Step.installAll, Step.install, hself,
    h, Except.bind]

theorem Item.unfit_of_problem {field : String} {item : Item} {problem : Problem}
    (h : problem ∈ item.problems field) : item.Unfit ν := by
  cases item with
  | filter f =>
    refine Filter.unfit_of_not_valid fun hvalid => ?_
    rw [Item.problems, (Filter.problems_eq_nil_iff field f).mpr hvalid] at h
    cases h
  | page p =>
    refine Page.unfit_of_not_valid fun hvalid => ?_
    rw [Item.problems, (Page.problems_eq_nil_iff field p).mpr hvalid] at h
    cases h
  | mount m =>
    cases hcompile : Pattern.compile .mount m.pattern with
    | error cause => exact Mount.unfit_of_error hcompile
    | ok pattern =>
      rw [Item.problems, patternProblems_eq_nil_iff.mpr ⟨pattern, hcompile⟩] at h
      cases h

/-! ## Checking is adequate -/

theorem not_skips (c : Config) (h : c.problems = []) : ¬c.Skips ν ∧ ¬c.DropsContentType := by
  obtain ⟨-, hfilters, hpages, hmounts⟩ := (problems_eq_nil_iff c).mp h
  have hfilter : ∀ f ∈ c.everyFilter, f.Valid := by
    simp only [everyFilter, List.forall_mem_append, List.mem_flatMap]
    exact ⟨hfilters, fun f ⟨m, hm, hf⟩ => (hmounts m hm).filters f hf⟩
  have hpage : ∀ p ∈ c.everyPage, p.Valid := by
    simp only [everyPage, List.forall_mem_append, List.mem_flatMap]
    exact ⟨hpages, fun p ⟨m, hm, hp⟩ => (hmounts m hm).pages p hp⟩
  refine ⟨?_, ?_⟩
  · rintro (⟨f, hf, hnone⟩ | ⟨p, hp, hnone⟩)
    · obtain ⟨callback, hstep, -⟩ := (hfilter f hf).step?_eq (ν := ν)
      cases hstep.symm.trans hnone
    · obtain ⟨callback, hstep, -⟩ := (hpage p hp).step?_eq (ν := ν)
      cases hstep.symm.trans hnone
  · rintro ⟨p, hp, hnone⟩
    obtain ⟨value, hvalue⟩ := (hpage p hp).contentType
    cases hvalue.symm.trans hnone

/-- A configuration without problems is installed whole: nothing is left out or dropped, it fails
exactly if pages of one table conflict, by a conflict, and otherwise the router is what is written.
And a problem beside the settings of the server is one of an item that cannot be installed alone as
it is written. -/
theorem adequate (ν : Type) (c : Config) :
    (c.problems = [] →
      (¬c.Skips ν ∧ ¬c.DropsContentType) ∧
        ((∃ fault, (c.router : Except RegistrationFault (Router ν)) = .error fault) ↔
          c.Conflicting) ∧
        (∀ fault, (c.router : Except RegistrationFault (Router ν)) = .error fault →
          ∃ text method, fault = .conflict text method) ∧
        ∀ router : Router ν, c.router = .ok router → c.InstalledIn router) ∧
      ∀ problem ∈ c.problems, problem.field ∉ Server.fields →
        ∃ field item, (field, item) ∈ c.items ∧ problem ∈ item.problems field ∧ item.Unfit ν := by
  refine ⟨fun h => ⟨c.not_skips h, ?_⟩, fun problem hproblem hfield => ?_⟩
  · have hsettles := c.settles_router h (ν := ν)
    cases hrouter : (c.router : Except RegistrationFault (Router ν)) with
    | error fault =>
      rw [hrouter] at hsettles
      obtain ⟨hconflict, hfault⟩ := hsettles
      refine ⟨iff_of_true ⟨fault, rfl⟩ (not_not.mp hconflict), ?_, ?_⟩
      · rintro _ ⟨⟩
        exact hfault
      · rintro router ⟨⟩
    | ok router =>
      rw [hrouter] at hsettles
      obtain ⟨hinOrder, hinstalled⟩ := hsettles
      refine ⟨iff_of_false ?_ hinOrder, ?_, ?_⟩
      · rintro ⟨fault, ⟨⟩⟩
      · rintro fault ⟨⟩
      · rintro _ ⟨⟩
        exact hinstalled
  · rw [problems_eq, List.mem_append] at hproblem
    obtain hproblem | hproblem := hproblem
    · exact absurd (c.server.field_mem hproblem) hfield
    · obtain ⟨item, hmem, hin⟩ := List.mem_flatMap.mp hproblem
      exact ⟨item.1, item.2, hmem, hin, Item.unfit_of_problem hin⟩

/-- A mount below the root adds to the table of the root, where its page conflicts; the same page
below another mount does not. -/
theorem adequate_merged :
    let page (route : String) : Page := { route }
    let c : Config :=
      { pages := [page "GET /a"]
        mounts := [{ pattern := "/m", pages := [page "GET /a"] },
          { pattern := "/", pages := [page "post,get /a/"] }] }
    c.problems = [] ∧ ∃ text method,
      (c.router : Except RegistrationFault (Router Empty)) = .error (.conflict text method) := by
  intro page c
  have hproblems : c.problems = [] := by decide +kernel
  have hconflict : c.Conflicting := by decide +kernel
  obtain ⟨-, hfails, hfault, -⟩ := (adequate Empty c).1 hproblems
  obtain ⟨fault, herror⟩ := hfails.mpr hconflict
  obtain ⟨text, method, rfl⟩ := hfault fault herror
  exact ⟨hproblems, text, method, herror⟩

end Config

end Signpost
