import Signpost.Proofs.Dispatch.Alike
import Signpost.Proofs.Path.Canonical

/-!
# Included pages

An included page is what the application would serve: the request for it, served on the router that
the including request started with, has the status that the include returns and the body that it
adds (`App.page_eq_serveFrom`); what its error page reports in its turn is dealt with in both alike.
Two things may tell an included page from a served one, its depth and the limit on it. So its
callbacks must not look at the depth, and no include below it may come to the limit (`Site.Within`).
-/

namespace Signpost

open Http (Request Response Status Uri)

variable {ν : Type}

/-- No include below the page comes to the depth limit: the page is the same whatever would happen
there. -/
def Site.Within (site : Site ν) (levels : Nat) (path : String) (s : State ν) : Prop :=
  ∀ limit : String → State ν → Except Failure Status × State ν,
    site.pageBy^[levels] limit path s = site.page levels path s

theorem Site.pageBy_eq {site : Site ν} {root : Router ν} (hroot : site.root = some root)
    {page : String → State ν → Except Failure Status × State ν} {path : String} {s : State ν}
    {request : Request} (hrequest : s.context.includeRequest path = .ok request) :
    site.pageBy page path s =
      let host := site.hostBy page (site.room + 1)
      let final := host.settle (root.dispatch host (Context.includeTarget path).1
        { s with context := s.context.child request })
      (.ok final.context.response.status,
        { context := s.context.edit (.write final.context.response.body)
          world := final.world }) := by
  unfold pageBy
  rw [hroot]
  dsimp only
  rw [hrequest]

/-- Then the page is the same as if pages could be included as deep from it as from a request. -/
theorem Site.Within.host_page_eq {site : Site ν} {s : State ν} {path : String}
    (h : site.Within (maxIncludeDepth - s.context.depth) path s)
    (hdepth : s.context.depth < maxIncludeDepth) :
    (site.host s.context).page path s = site.pageBy (site.page maxIncludeDepth) path s := by
  obtain ⟨m, hm⟩ : ∃ m, maxIncludeDepth - s.context.depth = m + 1 :=
    ⟨_, (Nat.succ_pred_eq_of_pos (Nat.sub_pos_of_lt hdepth)).symm⟩
  have hle : m ≤ maxIncludeDepth := by omega
  have hfull := h (site.page (maxIncludeDepth - m))
  rw [hm, Function.iterate_succ_apply', ← Site.page_add, Nat.add_sub_cancel' hle, ← hm] at hfull
  exact hfull.symm

/-! ## Requests for included pages -/

namespace Context

theorem canonical_includeTarget (path : String) : Path.Canonical (includeTarget path).1 := by
  unfold includeTarget
  split
  · exact Path.canonical_join "/" path
  · exact Path.canonical_join "/" _

/-- The text of the target that an include asks for. -/
def includeUri (c : Context) (path : String) : String :=
  Path.join c.basePath (includeTarget path).1 ++
    ((includeTarget path).2.map ("?" ++ ·)).getD ""

/-- The request for an included page: a GET with the headers of the including request. -/
def getRequest (c : Context) (uri : Uri) : Request :=
  { method := .get, uri, headers := c.request.headers, body := [] }

theorem includeRequest_eq {c : Context} {path : String} {uri : Uri}
    (h : Uri.parse (c.includeUri path) = .ok uri) :
    c.includeRequest path = .ok (c.getRequest uri) := by
  have hmethod : Http.Method.ofName? Http.Method.get.name = some .get := by decide
  have hbuild : Request.build Http.Method.get.name (c.includeUri path) [] [] =
      .ok { method := .get, uri, headers := [], body := [] } := by
    simp only [Request.build, hmethod, h]
    rfl
  unfold includeRequest
  exact congrArg (Except.map _) hbuild

end Context

/-! ## The application -/

namespace App

/-- The site of a request that started with the router. -/
def siteFrom (app : App ν) (root : Router ν) : Site ν :=
  { root := some root, errorPage := app.errorPage, room := app.room }

/-- The answer to a request that started with the router. -/
def serveFrom (app : App ν) (root : Router ν) (w : World ν) (request : Request) :
    Response × World ν :=
  let context := app.context request
  let host := (app.siteFrom root).host context
  let start : State ν := { context, world := w }
  let final :=
    match app.routePath? context.path with
    | none => host.report .notFound .notFound start
    | some path => host.settle (root.dispatch host path start)
  (final.context.response, final.world)

theorem serve_eq_serveFrom (app : App ν) (w : World ν) (request : Request) :
    app.serve w request = app.serveFrom w.published w request := rfl

theorem serveFrom_eq (app : App ν) (root : Router ν) (w : World ν) (request : Request)
    {path : String} (h : app.routePath? request.uri.path = some path) :
    app.serveFrom root w request =
      let host := (app.siteFrom root).host (app.context request)
      let start : State ν := { context := app.context request, world := w }
      let final := host.settle (root.dispatch host path start)
      (final.context.response, final.world) := by
  unfold serveFrom
  dsimp only
  rw [show app.routePath? (app.context request).path = some path from h]

/-- A page in which pages can be included as deep as from a request is what the application serves
for its target. -/
theorem pageBy_eq_serveFrom {app : App ν} {root : Router ν} {s : State ν} {argument : String}
    {uri : Uri} (hcontext : s.context.basePath = app.basePath)
    (huri : Uri.parse (s.context.includeUri argument) = .ok uri)
    (hroute : app.routePath? uri.path = some (Context.includeTarget argument).1)
    (hblind : (app.siteFrom root).Blind fun _ _ => True) :
    ∃ trail, (app.siteFrom root).pageBy ((app.siteFrom root).page maxIncludeDepth) argument s =
      let served := app.serveFrom root s.world (s.context.getRequest uri)
      (.ok served.1.status,
        { context := s.context.edit (.write served.1.body)
          world := { served.2 with trail } }) := by
  -- the contexts differ in nothing but the depth at their start
  have hstart : State.Alike (fun _ _ => True)
      { context := app.context (s.context.getRequest uri), world := s.world }
      { s with context := s.context.child (s.context.getRequest uri) } := by
    refine ⟨s.context.depth + 1, s.world.trail, trivial, ?_⟩
    rw [Context.child, hcontext]
    rfl
  have hR := State.Alike.simulation (ν := ν) (D := fun _ _ => True) fun _ => trivial
  have hhost : ((app.siteFrom root).host (app.context (s.context.getRequest uri))).Simulates
      (State.Alike fun _ _ => True)
      ((app.siteFrom root).hostBy ((app.siteFrom root).page maxIncludeDepth)
        ((app.siteFrom root).room + 1)) :=
    hblind.simulates.hostBy hR (hblind.simulates.pages hR maxIncludeDepth) _
  have hrouter : root.Simulates (State.Alike fun _ _ => True) root :=
    Router.Blind.simulates (hblind.root root rfl)
  obtain ⟨depth, trail, -, hfinal⟩ :=
    hhost.settle (hrouter.dispatch hR hhost (Context.includeTarget argument).1 hstart)
  refine ⟨trail, ?_⟩
  rw [Site.pageBy_eq rfl (Context.includeRequest_eq huri),
    serveFrom_eq app root s.world (s.context.getRequest uri) hroute]
  dsimp only
  rw [hfinal]

/-- An included page is what the application serves for its target, from the same attributes and on
the router that the including request started with; either both have room for all their reports or
neither has. And the target lies below the base path. -/
theorem page_eq_serveFrom (app : App ν) (root : Router ν) (s : State ν) (argument : String)
    (uri : Uri) (hbase : Path.Canonical app.basePath)
    (hcontext : s.context.basePath = app.basePath) (hdepth : s.context.depth < maxIncludeDepth)
    (huri : Uri.parse (s.context.includeUri argument) = .ok uri)
    (hpath : uri.path = Path.join app.basePath (Context.includeTarget argument).1)
    (hblind : (app.siteFrom root).Blind fun _ _ => True)
    (hlimit : (app.siteFrom root).Within (maxIncludeDepth - s.context.depth) argument s) :
    let included := ((app.siteFrom root).host s.context).page argument s
    let served := app.serveFrom root s.world (s.context.getRequest uri)
    (s.world.published = root → served = app.serve s.world (s.context.getRequest uri)) ∧
      (included.1 = .ok served.1.status ∧
        included.2.context = s.context.edit (.write served.1.body) ∧
        included.2.world.published = served.2.published ∧
        included.2.world.shared = served.2.shared ∧
        included.2.world.overflowed = served.2.overflowed) ∧
      app.routePath? uri.path = some (Context.includeTarget argument).1 ∧
      Path.elements app.basePath.toList <+: Path.elements uri.path.toList := by
  have htarget := Context.canonical_includeTarget argument
  have hroute : app.routePath? uri.path = some (Context.includeTarget argument).1 := by
    rw [hpath]
    exact routePath?_join hbase htarget
  have hbelow : Path.elements app.basePath.toList <+: Path.elements uri.path.toList := by
    rw [hpath, Path.elements_join_eq _ htarget]
    exact List.prefix_append _ _
  have hpublished : s.world.published = root → app.serveFrom root s.world
      (s.context.getRequest uri) = app.serve s.world (s.context.getRequest uri) := by
    rintro rfl
    rfl
  have hdeep := hlimit.host_page_eq hdepth
  obtain ⟨trail, hserved⟩ := pageBy_eq_serveFrom hcontext huri hroute hblind
  dsimp only
  rw [hdeep, hserved]
  exact ⟨hpublished, ⟨rfl, rfl, rfl, rfl, rfl⟩, hroute, hbelow⟩

/-- A router that answers every path with one byte and includes nothing. -/
def byteRouter : Router Empty :=
  { filters := [{ pattern := none, callback := .edit (.write [104]) .done }] }

theorem byteRouter_blind (app : App Empty)
    (herror : ∀ status, (app.errorPage status).Blind fun _ _ => True) :
    (app.siteFrom byteRouter).Blind fun _ _ => True := by
  refine ⟨?_, herror⟩
  rintro _ ⟨⟩
  refine ⟨⟨?_, ?_⟩, trivial⟩
  · simp [byteRouter, Callback.Blind, Callback.done]
  · simp [byteRouter]

theorem byteRouter_within (app : App Empty) (levels : Nat) {path : String} {s : State Empty}
    {request : Request} (hrequest : s.context.includeRequest path = .ok request) :
    (app.siteFrom byteRouter).Within (levels + 1) path s := by
  intro limit
  have hsame : ∀ (host host' : Host Empty) (target : String) (start : State Empty),
      host.settle (byteRouter.dispatch host target start) =
        host'.settle (byteRouter.dispatch host' target start) := fun _ _ _ _ => rfl
  rw [Function.iterate_succ_apply', Site.page_succ, Site.pageBy_eq rfl hrequest,
    Site.pageBy_eq rfl hrequest]
  dsimp only
  rw [hsame]

theorem page_eq_serveFrom_climbing :
    let app : App Empty := { basePath := "/app" }
    let s : State Empty :=
      { context := { request := { uri := { path := "/app/x" } }, basePath := "/app", depth := 3 },
        world := { published := byteRouter } }
    let served := app.serve s.world
      (s.context.getRequest { path := "/app/a", query := some "q=?" })
    (((app.siteFrom byteRouter).host s.context).page "../../a?q=?" s).1 = .ok served.1.status ∧
      app.routePath? "/app/a" = some (Context.includeTarget "../../a?q=?").1 := by
  intro app s served
  have huri : Uri.parse (s.context.includeUri "../../a?q=?") =
      .ok { path := "/app/a", query := some "q=?" } := by
    decide +kernel
  have hbase : Path.Canonical app.basePath := Path.canonical_iff.mpr (by decide +kernel)
  obtain ⟨hserved, ⟨hstatus, -⟩, hroute, -⟩ :=
    page_eq_serveFrom app byteRouter s "../../a?q=?" _ hbase rfl (by decide) huri
      (by decide +kernel) (byteRouter_blind app Callback.plainErrorPage_blind)
      (byteRouter_within app 4 (Context.includeRequest_eq huri))
  rw [hserved rfl] at hstatus
  exact ⟨hstatus, hroute⟩

end App

end Signpost
