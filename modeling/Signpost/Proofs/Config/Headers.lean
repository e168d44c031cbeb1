import Signpost.Proofs.Config.Visiting
import Signpost.Proofs.Dispatch.Including
import Signpost.Proofs.Dispatch.Leaves
import Signpost.Proofs.Dispatch.Writing

/-!
# Headers of a configured application

Of a configured application, the filters alone set the headers of a response, apart from the type of
its content. Each sets one header on the way to what comes after it, whatever that comes to. So a
header has the value that the last of the visited filters gives it (`Config.serve_headers`), also if
a page is refused or none is found, and also if the filter stands at a mount that was entered in
vain.
-/

namespace Signpost

open Http (HeaderName HeaderValue Request Response Status)

variable {ν : Type}

/-! ## The value of a header -/

def State.header? (s : State ν) (name : HeaderName) : Option HeaderValue :=
  s.context.response.headers.get? name.text

namespace Config

/-- The value that the filter gives the header at the path, if it has the name of the header and is
for the path. -/
def Filter.value? (name : HeaderName) (f : Filter) (path : String) : Option HeaderValue :=
  if HeaderName.ofText? f.header = some name ∧
      (f.pattern.isEmpty = true ∨ fits f.pattern path = true) then
    HeaderValue.ofText? f.value
  else none

/-- The value that the last of the visited filters gives the header, of those that give it one. -/
def lastValue? (name : HeaderName) (visited : List (Filter × String)) : Option HeaderValue :=
  (visited.filterMap fun v => v.1.value? name v.2).getLast?

theorem lastValue?_append (name : HeaderName) (visited visited' : List (Filter × String)) :
    lastValue? name (visited ++ visited') =
      (lastValue? name visited').or (lastValue? name visited) := by
  rw [lastValue?, List.filterMap_append, List.getLast?_append]
  rfl

theorem lastValue?_cons (name : HeaderName) (f : Filter) (path : String)
    (visited : List (Filter × String)) :
    lastValue? name ((f, path) :: visited) = (lastValue? name visited).or (f.value? name path) := by
  have hone : lastValue? name [(f, path)] = f.value? name path := by
    unfold lastValue?
    cases h : f.value? name path <;> simp [h]
  rw [← hone, ← lastValue?_append]
  rfl

/-- However it starts, the computation deals with the request or not, as told, and leaves the header
with the value that the visited filters give it, or as it was. -/
def Shows (name : HeaderName) (visited : List (Filter × String)) (dealt : Bool)
    (run : State ν → Except Failure Bool × State ν) : Prop :=
  ∀ s, (run s).1 = .ok dealt ∧
    (run s).2.header? name = (lastValue? name visited).or (s.header? name)

end Config

/-! ## Filters -/

/-- A filter that sets a header gives back the answer of what comes after it. -/
theorem Guard.through_addHeader {host : Host ν} {place : Place}
    {routes : State ν → Except Failure Bool × State ν} {i : Nat} {g : Guard ν}
    {rest : List (Guard ν)} {s : State ν} {captures : Vars} {name : HeaderName}
    {value : HeaderValue} (hfit : g.captures? place.path = some captures)
    (hcallback : g.callback = Callback.addHeader name value) :
    let entered := s.log (.enter place i)
    let answer := after host place routes i rest
      { entered with context := entered.context.edit (.setHeader name value) }
    through host place routes i (g :: rest) s =
      (answer.1, answer.2.log (.leave place i (answer.1.map fun _ => ()) false)) := by
  intro entered answer
  rw [through_cons_of_some hfit, hcallback]
  simp only [Callback.addHeader, Callback.run, Bool.false_eq_true, if_false]
  change ((answer.1.map fun _ => ()).map fun _ => Passage.handled (Passage.answered _ answer.1),
    answer.2.log (.leave place i (answer.1.map fun _ => ()) false)) = _
  cases answer.1 with
  | error failure => rfl
  | ok dealt => cases dealt <;> rfl

theorem State.header?_setHeader (s : State ν) (name other : HeaderName) (value : HeaderValue) :
    State.header? { s with context := s.context.edit (.setHeader other value) } name =
      if name = other then some value else s.header? name := by
  rw [← if_congr HeaderName.text_inj rfl rfl]
  exact Dict.get?_insert ..

namespace Config

variable {name : HeaderName} {visited visited' : List (Filter × String)} {dealt dealt' : Bool}
  {host : Host ν} {place : Place}

/-- The filter gives the header a value where its guard is for the path. -/
theorem Filter.StandsAs.value?_eq {f : Filter} {g : Guard ν} (h : f.StandsAs g) (hproper : g.Proper)
    (name : HeaderName) (path : String) :
    ∃ other value, g.callback = Callback.addHeader other value ∧
      f.value? name path = if g.applies path = true ∧ name = other then some value else none := by
  obtain ⟨⟨other, value, hname, hvalue, hcallback⟩, hpattern⟩ := h
  refine ⟨other, value, hcallback, ?_⟩
  have happlies : f.pattern.isEmpty = true ∨ fits f.pattern path = true ↔
      g.applies path = true := by
    obtain ⟨hempty, hnone⟩ | ⟨pattern, hcompile, hsome⟩ := hpattern
    · simp [Guard.applies, hnone, hempty]
    · have htext := hproper pattern hsome
      rw [Pattern.text_of_compile hcompile] at htext
      simp [Guard.applies, hsome, htext, fits, hcompile]
  refine if_congr ?_ hvalue rfl
  rw [hname, happlies, Option.some_inj, and_comm, @eq_comm _ other]

/-- Filters in front of a computation are visited before it. -/
theorem Shows.through {routes : State ν → Except Failure Bool × State ν}
    (hroutes : Shows name visited dealt routes) (host : Host ν) (place : Place)
    {filters : List Filter} {gs : List (Guard ν)}
    (hfilters : List.Forall₂ Filter.StandsAs filters gs) (hproper : ∀ g ∈ gs, g.Proper) :
    ∀ i, Shows name (filters.map (·, place.path) ++ visited) dealt
      (Guard.through host place routes i gs) := by
  induction hfilters with
  | nil => exact fun _ => hroutes
  | @cons f g rest gs hstands _ ih =>
    intro i s
    obtain ⟨hg, hgs⟩ := List.forall_mem_cons.mp hproper
    obtain ⟨other, value, hcallback, hvalue⟩ := hstands.value?_eq hg name place.path
    rw [List.map_cons, List.cons_append, lastValue?_cons, hvalue]
    cases hfit : g.captures? place.path with
    | none =>
      rw [Guard.through_cons_of_none hfit, Guard.captures?_eq_none_iff.mp hfit]
      simpa using ih hgs (i + 1) s
    | some captures =>
      obtain ⟨hanswer, hheader⟩ := ih hgs (i + 1) _
      rw [Guard.through_addHeader hfit hcallback, Guard.applies_of_captures? hfit]
      refine ⟨hanswer, hheader.trans ?_⟩
      rw [Option.or_assoc]
      refine congrArg _ (((s.log (.enter place i)).header?_setHeader name other value).trans ?_)
      by_cases hname : name = other <;> simp [hname, State.header?, State.log]

/-! ## Pages -/

theorem Page.Answers.runAlone {p : Page} {handler : Callback ν .handler} (h : p.Answers handler)
    (hname : name ≠ .contentType) (host : Host ν) (s : State ν) :
    (handler.runAlone host s).1 = .ok () ∧
      (handler.runAlone host s).2.header? name = s.header? name := by
  obtain ⟨status, value, -, -, rfl⟩ := h
  have hedits : ∀ e ∈ [Response.Edit.setHeader .contentType value, .commit status,
      .write (Text.Utf8.encode (Template.expand s.context.vars p.body))], e.name? ≠ some name := by
    simpa [Response.Edit.name?] using hname.symm
  exact ⟨rfl, Response.get?_headers_after hedits⟩

/-- Every handler of a page among the routes is that of a page of a configuration. -/
def Serving (routes : List (Route ν)) : Prop :=
  ∀ pattern handlers, .page pattern handlers ∈ routes → ∀ method handler,
    handlers.get? method = some handler → ∃ p : Page, p.Answers handler

theorem Serving.of_cons {route : Route ν} {rest : List (Route ν)} (h : Serving (route :: rest)) :
    Serving [route] ∧ Serving rest :=
  ⟨fun pattern handlers hmem =>
      h pattern handlers (List.mem_singleton.mp hmem ▸ List.mem_cons_self),
    fun pattern handlers hmem => h pattern handlers (List.mem_cons_of_mem _ hmem)⟩

theorem Holds.serving {filters : List Filter} {pages : List Page} {router : Router ν}
    (h : Holds filters pages router) : Serving router.routes := by
  intro pattern handlers hmem method handler hget
  obtain ⟨p, -, -, -, hanswers⟩ :=
    (h.serves pattern.text method handler).mp ⟨pattern, handlers, hmem, rfl, hget⟩
  exact ⟨p, hanswers⟩

/-- Routes are visited up to the first that deals with the request. -/
theorem Shows.cons {route : Route ν} {rest : List (Route ν)} {i : Nat}
    (hroute : Shows name visited dealt (Route.dispatch host place i route))
    (hrest : Shows name visited' dealt' (Route.dispatchAll host place (i + 1) rest)) :
    Shows name (visited ++ if dealt then [] else visited') (dealt || dealt')
      (Route.dispatchAll host place i (route :: rest)) := by
  intro s
  obtain ⟨hanswer, hheader⟩ := hroute s
  rw [Route.dispatchAll]
  generalize Route.dispatch host place i route s = answer at hanswer hheader ⊢
  obtain ⟨answer, t⟩ := answer
  obtain rfl := hanswer
  cases dealt with
  | true => simpa using hheader
  | false =>
    obtain ⟨hanswer', hheader'⟩ := hrest t
    refine ⟨hanswer', hheader'.trans ?_⟩
    rw [if_neg (by decide), lastValue?_append, Option.or_assoc]
    exact congrArg _ hheader

section Routes

variable (place : Place) (hname : name ≠ .contentType)
  (hhost : ∀ failure status (s : State ν),
    (host.report failure status s).header? name = s.header? name)

include hname hhost

/-- A page answers whatever its pattern matches, and touches no header but the type of content. -/
theorem Shows.page {text : String} {pattern : Pattern} {handlers : Dict (Callback ν .handler)}
    (hcompile : Pattern.compile .exact text = .ok pattern)
    (hserving : Serving [.page pattern handlers]) (i : Nat) :
    Shows name [] (fits text place.path)
      (Route.dispatch host place i (.page pattern handlers)) := by
  intro s
  rw [Route.dispatch, fits, hcompile]
  dsimp only
  cases hvars : pattern.matchVars? place.path s.context.vars with
  | none => exact ⟨by rw [Pattern.matchVars?_eq_none_iff.mp hvars], rfl⟩
  | some vars =>
    rw [Pattern.isMatch_of_matchVars? hvars]
    dsimp only
    unfold Route.serve
    cases hhandler : Route.handler? handlers (s.setVars vars).context.request.method.name with
    | none => exact ⟨rfl, hhost _ _ _⟩
    | some handler =>
      obtain ⟨method, hget⟩ : ∃ method, handlers.get? method = some handler := by
        rcases Option.or_eq_some_iff.mp hhandler with hget | ⟨-, hget⟩
        · exact ⟨_, hget⟩
        · exact ⟨_, hget⟩
      obtain ⟨p, hanswers⟩ := hserving pattern handlers List.mem_cons_self method handler hget
      obtain ⟨hresult, hheader⟩ :=
        hanswers.runAlone hname host ((s.setVars vars).log (.serve place i))
      exact ⟨congrArg (Except.map fun _ => true) hresult, hheader⟩

/-- Pages alone answer what one of their patterns matches. -/
theorem Shows.pages {routes : List (Route ν)} (hpages : routes.filterMap Route.mounted? = [])
    (hcompiled : ∀ pattern handlers, .page pattern handlers ∈ routes →
      Pattern.compile .exact pattern.text = .ok pattern) (hserving : Serving routes) :
    ∀ i, Shows name [] ((routes.filterMap Route.pageText?).any (fits · place.path))
      (Route.dispatchAll host place i routes) := by
  induction routes with
  | nil => exact fun _ _ => ⟨rfl, rfl⟩
  | cons route rest ih =>
    intro i
    cases route with
    | mount => simp [Route.mounted?] at hpages
    | page pattern handlers =>
      have hpage := Shows.page place hname hhost
        (hcompiled pattern handlers List.mem_cons_self) hserving.of_cons.1 i
      have hrest := ih hpages
        (fun pattern handlers hmem => hcompiled pattern handlers (List.mem_cons_of_mem _ hmem))
        hserving.of_cons.2 (i + 1)
      simpa [Route.pageText?] using hpage.cons hrest

/-- A mount is entered where its pattern leaves something, and decides what one of its pages is
for. -/
theorem Shows.mount {m : Mount} {pattern : Pattern} {filters : List (Guard ν)}
    {routes : List (Route ν)} (h : Entry.StandsAs (.mount m) (.mount pattern filters routes))
    (i : Nat) :
    Shows name (Entry.visited place.path (.mount m)) (Entry.decides place.path (.mount m))
      (Route.dispatch host place i (.mount pattern filters routes)) := by
  obtain ⟨⟨hcompile, hholds, hnone⟩, hproper⟩ := h
  dsimp only at hcompile hholds
  intro s
  rw [Route.dispatch, Entry.visited, Entry.decides, below?, hcompile]
  dsimp only
  cases hsuffix : pattern.matchPrefix? place.path Dict.empty with
  | none => exact ⟨rfl, rfl⟩
  | some found =>
    obtain ⟨suffix, captures⟩ := found
    have hdecides : (routes.filterMap Route.pageText?).any (fits · suffix) =
        m.pages.any (fits ·.text suffix) := by
      have htexts := hholds.texts
      unfold Router.pageTexts at htexts
      rw [Bool.eq_iff_iff, List.any_eq_true, List.any_eq_true]
      simp only [htexts, exists_exists_and_eq_and]
    have hpages := Shows.pages (place.below i suffix) hname hhost hnone hholds.compiled
      hholds.serving 0
    obtain ⟨hanswer, hheader⟩ := hpages.through host _ hholds.filters hproper 0
      (s.setVars (s.context.vars.merge captures))
    rw [Option.map_some, Option.elim_some, Option.any_some, ← hdecides]
    rw [List.append_nil] at hheader
    dsimp only [Place.below] at hanswer hheader ⊢
    generalize Guard.through host _ _ 0 filters _ = answer at hanswer hheader ⊢
    obtain ⟨answer, t⟩ := answer
    obtain rfl := hanswer
    cases (routes.filterMap Route.pageText?).any (fits · suffix) with
    | true => exact ⟨rfl, hheader⟩
    | false =>
      refine ⟨rfl, .trans ?_ hheader⟩
      dsimp only
      split <;> rfl

/-- The entries are visited up to the one that decides. -/
theorem Shows.entries {entries : List Entry} {routes : List (Route ν)}
    (h : List.Forall₂ Entry.StandsAs entries routes) (hserving : Serving routes) :
    ∀ i, Shows name (Entry.visitedAll place.path entries)
      (entries.any (Entry.decides place.path)) (Route.dispatchAll host place i routes) := by
  induction h with
  | nil => exact fun _ _ => ⟨rfl, rfl⟩
  | @cons entry route entries rest hstands _ ih =>
    intro i
    rw [Entry.visitedAll, List.any_cons]
    refine Shows.cons ?_ (ih hserving.of_cons.2 (i + 1))
    cases entry <;> cases route
    case page.page => exact Shows.page place hname hhost hstands hserving.of_cons.1 i
    case mount.mount => exact Shows.mount place hname hhost hstands i
    all_goals exact hstands.elim

end Routes

end Config

/-! ## Requests -/

/-- The plain error page touches no headers but those of the content. -/
theorem Site.header?_reportBy {site : Site ν} {name : HeaderName}
    (hplain : site.errorPage = Callback.plainErrorPage) (hname : name ≠ .contentType)
    (hname' : name ≠ .contentTypeOptions)
    (page : String → State ν → Except Failure Status × State ν) (room : Nat) (failure : Failure)
    (status : Status) (s : State ν) :
    (site.reportBy page (room + 1) failure status s).header? name = s.header? name := by
  unfold reportBy
  rw [hplain]
  simp only [Callback.runAlone, Callback.plainErrorPage, Callback.run]
  split
  · rfl
  · have hedits : ∀ e ∈ [Response.Edit.setHeader .contentType .plainText,
        .setHeader .contentTypeOptions .noSniff, .commit status,
        .write (Text.Utf8.encode (failure.message ++ "\n"))], e.name? ≠ some name := by
      simpa [Response.Edit.name?] using ⟨hname.symm, hname'.symm⟩
    exact Response.get?_headers_after hedits

namespace Config

theorem exists_router (c : Config) (h : c.problems = []) (hinOrder : ¬c.Conflicting) :
    ∃ router : Router ν, c.router = .ok router := by
  have hsettles := c.settles_router h (ν := ν)
  generalize c.router = result at hsettles ⊢
  cases result with
  | error fault => exact absurd hinOrder hsettles.1
  | ok router => exact ⟨router, rfl⟩

/-- A header, other than those of the content, has the value that the last of the visited filters
gives it, and there is none if none does. What is visited are the filters of the root and those at
its routes, up to the one that decides; without one, nothing is found. -/
theorem serve_headers (c : Config) (h : c.problems = []) (router : Router ν)
    (hrouter : c.router = .ok router) (w : World ν) (hw : w.published = router) (request : Request)
    (path : String) (hpath : (c.app : App ν).routePath? request.uri.path = some path)
    (name : HeaderName) (hname : name ≠ .contentType) (hname' : name ≠ .contentTypeOptions) :
    (List.Forall₂ Filter.StandsAs c.rootFilters router.filters ∧
      List.Forall₂ Entry.StandsAs c.entries router.routes) ∧
    (c.app.unsettled? w request =
      if c.entries.any (·.decides path) then none else some (.notFound, .notFound)) ∧
    (c.app.serve w request).1.headers.toList.filter (·.1 == name.text) =
      ((lastValue? name (c.visited path)).map (name.text, ·)).toList := by
  have hsettles := c.settles_router h (ν := ν)
  rw [hrouter] at hsettles
  obtain ⟨-, hholds, -⟩ := hsettles
  have hlists := lists_router h hrouter
  let app : App ν := c.app
  let host := (app.site w).host (app.context request)
  let start : State ν := { context := app.context request, world := w }
  have hhost : ∀ failure status (s : State ν),
      (host.report failure status s).header? name = s.header? name :=
    Site.header?_reportBy rfl hname hname' _ _
  let place : Place := { depth := 0, mounts := [], path }
  have hroutes := Shows.entries place hname hhost hlists.routes hholds.serving 0
  have hdispatch : (router.dispatch host path start).1 = .ok (c.entries.any (·.decides path)) ∧
      (router.dispatch host path start).2.header? name =
        (lastValue? name (c.visited path)).or (start.header? name) :=
    hroutes.through host place hholds.filters hlists.filters 0 start
  generalize hended : router.dispatch host path start = ended at hdispatch
  obtain ⟨hanswer, hheader⟩ := hdispatch
  have hsettled : (host.settle ended).header? name = lastValue? name (c.visited path) := by
    have hstart : start.header? name = none := rfl
    rw [hstart, Option.or_none] at hheader
    obtain ⟨answer, t⟩ := ended
    cases hanswer
    cases c.entries.any (·.decides path) with
    | true => exact hheader
    | false => exact (hhost _ _ t).trans hheader
  refine ⟨⟨hholds.filters, hlists.routes⟩, ?_, ?_⟩
  · unfold App.unsettled?
    dsimp only
    rw [show app.routePath? (app.context request).path = some path from hpath, hw]
    dsimp only
    rw [show router.dispatch ((app.site w).host (app.context request)) path
      { context := app.context request, world := w } = ended from hended, hanswer]
    cases c.entries.any (·.decides path) <;> rfl
  · rw [Dict.filter_key_toList, App.serve_eq_serveFrom,
      App.serveFrom_eq app w.published w request hpath, hw]
    dsimp only
    rw [← hsettled, ← hended]
    subst hw
    rfl

theorem fits_eq_of_capturesFor {text path : String} (rounds : Nat) {b : Bool}
    (h : ((Pattern.compile .exact text).toOption.bind fun p =>
      (p.regex.capturesFor rounds path).map (·.isSome)) = some b) : fits text path = b := by
  obtain ⟨p, hp, hfound⟩ := Option.bind_eq_some_iff.mp h
  obtain ⟨found, hcaptures, rfl⟩ := Option.map_eq_some_iff.mp hfound
  rw [fits]
  cases hcompile : Pattern.compile .exact text with
  | error => simp [hcompile, Except.toOption] at hp
  | ok q =>
    obtain rfl : q = p := by simpa [hcompile, Except.toOption] using hp
    rw [← Regex.captures?_eq_of_capturesFor hcaptures]
    rfl

theorem below?_eq_of_capturesFor {text path suffix : String} (rounds : Nat)
    (h : ((Pattern.compile .mount text).toOption.bind fun p =>
      (p.regex.capturesFor rounds path).map fun found => found.map fun c =>
        (p.mode, Path.clean ((c.group? p.regex.groupNames.length).getD ""))) =
          some (some (.mount, suffix))) : below? text path = some suffix := by
  obtain ⟨p, c, hcompile, hcaptures, hmount⟩ := Pattern.exists_compile_eq _ _ _ _ _ _ h
  obtain ⟨hmode, hsuffix⟩ := Prod.mk.inj hmount
  rw [below?, hcompile]
  dsimp only
  rw [Pattern.matchPrefix?, hmode, hcaptures]
  exact congrArg some hsuffix

/-- The mount is entered before the page is found, which is registered behind it, and has set the
header by then. -/
theorem serve_headers_entered :
    let named (pattern value : String) : Filter := { pattern, header := "x-a", value }
    let c : Config :=
      { filters := [named "" "root"]
        mounts := [
          { pattern := "/m", filters := [named "" "mount"], pages := [{ route := "/b" }] },
          { pattern := "/", filters := [named "/m/a" "self"], pages := [{ route := "/m/a" }] }] }
    c.problems = [] ∧ ∃ router : Router Empty, c.router = .ok router ∧
      let r := (c.app.serve { published := router } { uri := { path := "/m/a" } }).1
      (r.headers.toList.filter (·.1 == "x-a")).map (·.2.bytes) = [Text.Utf8.encode "mount"] := by
  intro named c
  have hproblems : c.problems = [] := by decide +kernel
  have hinOrder : ¬c.Conflicting := by decide +kernel
  obtain ⟨router, hrouter⟩ := c.exists_router hproblems hinOrder (ν := Empty)
  let name : HeaderName := ⟨"x-a", by decide⟩
  have hpath : (c.app : App Empty).routePath? "/m/a" = some "/m/a" := by decide +kernel
  have hmount : below? "/m" "/m/a" = some "/a" := below?_eq_of_capturesFor 100 (by decide +kernel)
  have hmiss : fits "/b" "/a" = false := fits_eq_of_capturesFor 100 (by decide +kernel)
  have hpage : fits "/m/a" "/m/a" = true := fits_eq_of_capturesFor 100 (by decide +kernel)
  have hentries : c.entries =
      [.mount { pattern := "/m", filters := [named "" "mount"], pages := [{ route := "/b" }] },
        .page "/m/a"] := by
    decide +kernel
  have htext : Page.text { route := "/b" } = "/b" := by decide +kernel
  have hvisited : c.visited "/m/a" =
      [(named "" "root", "/m/a"), (named "/m/a" "self", "/m/a"), (named "" "mount", "/a")] := by
    have hroot : c.rootFilters = [named "" "root", named "/m/a" "self"] := by decide +kernel
    simp [visited, hentries, hroot, Entry.visitedAll, Entry.visited, Entry.decides, hmount, hmiss,
      hpage, htext]
  obtain ⟨value, hvalue⟩ : ∃ value, HeaderValue.ofText? "mount" = some value :=
    Option.isSome_iff_exists.mp (by decide +kernel)
  have hlast : lastValue? name (c.visited "/m/a") = some value := by
    have hname : HeaderName.ofText? "x-a" = some name := by decide +kernel
    have hgives : (named "" "mount").value? name "/a" = some value := by
      rw [Filter.value?, if_pos ⟨hname, .inl (by decide)⟩]
      exact hvalue
    rw [hvisited, lastValue?_cons, lastValue?_cons, lastValue?_cons, hgives]
    rfl
  obtain ⟨-, -, hheaders⟩ := serve_headers c hproblems router hrouter { published := router } rfl
    { uri := { path := "/m/a" } } "/m/a" hpath name (by decide) (by decide)
  have hbytes : value.bytes = Text.Utf8.encode "mount" := HeaderValue.bytes_of_ofText? hvalue
  refine ⟨hproblems, router, hrouter, ?_⟩
  intro r
  rw [hlast] at hheaders
  rw [show r.headers.toList.filter (·.1 == "x-a") = [("x-a", value)] from hheaders]
  exact congrArg (fun bytes => [bytes]) hbytes

end Config

end Signpost
