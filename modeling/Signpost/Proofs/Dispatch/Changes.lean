import Signpost.Proofs.Dispatch.Run
import Signpost.Proofs.Http.Response
import Signpost.App

/-!
# What happens to a response

The response to a request is written by many hands: by the callbacks, by the error page when a
failure is reported, and by the pages that are included. The log of a request (`App.changes`) lists
in order what each of them did to the response. Nothing is left out: the changes of a log lead from
the response at the start of the run to the one at its end (`Recorded`), whatever the callbacks do
(`Site.Meets.tells_ledger`).
-/

namespace Signpost

open Http (Request Response Status)
open Http.Response (Edit)

variable {ν : Type}

/-! ## Logs -/

/-- Something that happens to the response of a page. -/
inductive Change where
  /-- A callback looks at it. -/
  | seen (r : Response)
  /-- A callback edits it. -/
  | edited (e : Edit)
  /-- The body of an included page is added. -/
  | included (body : Bytes)
  /-- A failure is reported, and the error page edits it; so may the reports that it makes. -/
  | reported (failure : Failure) (status : Status) (edits : List Edit)

namespace Change

def edits : Change → List Edit
  | seen _ => []
  | edited e => [e]
  | included body => [.write body]
  | reported _ _ edits => edits

/-- The edits of all changes, in order. -/
def editsAll (log : List Change) : List Edit := log.flatMap edits

end Change

open Change (editsAll)

/-! ## The log of a run -/

/-- What the answers of a host do to the response. -/
structure Ledger (ν : Type) where
  report : Failure → Status → State ν → List Edit
  page : String → State ν → List Change

/-- What a callback and what comes after it do to the response. The states on the way are those of
the run; `nextChanges` is the log of `next`. -/
def Callback.changes (host : Host ν) (ledger : Ledger ν)
    (next : State ν → Except Failure Bool × State ν) (nextChanges : State ν → List Change) :
    {role : Role} → Callback ν role → Passage → State ν → List Change
  | _, .finish _, _, _ => []
  | _, .look k, p, s =>
    .seen s.context.response :: changes host ledger next nextChanges (k s.context) p s
  | _, .setVars vars k, p, s => changes host ledger next nextChanges k p (s.setVars vars)
  | _, .setAttributes attributes k, p, s =>
    changes host ledger next nextChanges k p { s with context := { s.context with attributes } }
  | _, .edit e k, p, s =>
    .edited e ::
      changes host ledger next nextChanges k p { s with context := s.context.edit e }
  | _, .share change k, p, s =>
    changes host ledger next nextChanges (k s.world.shared) p
      { s with world := { s.world with shared := change s.world.shared } }
  | _, .report failure status k, p, s =>
    .reported failure status (ledger.report failure status s) ::
      changes host ledger next nextChanges k p (host.report failure status s)
  | _, .page path k, p, s =>
    let (answer, t) := host.page path s
    ledger.page path s ++ changes host ledger next nextChanges (k answer) p t
  | _, .register stop steps k, p, s =>
    let (world, registered) := s.world.register stop steps
    changes host ledger next nextChanges (k registered) p { s with world }
  | _, .note entry k, p, s => changes host ledger next nextChanges k p (s.log (.note entry))
  | _, .next k, p, s =>
    if p.nextCalled then changes host ledger next nextChanges (k (.error .multipleNext)) p s
    else
      let (answer, t) := next s
      nextChanges s ++ changes host ledger next nextChanges (k answer) (p.answered answer) t
  | _, .claim k, p, s => changes host ledger next nextChanges k { p with claimed := true } s
  | _, .passage k, p, s => changes host ledger next nextChanges (k p) p s

def Callback.changesAlone {role : Role} (host : Host ν) (ledger : Ledger ν)
    (callback : Callback ν role) (s : State ν) : List Change :=
  callback.changes host ledger (fun s => (.ok false, s)) (fun _ => []) {} s

/-- What the filters and the routes do to the response. -/
def Guard.changes (host : Host ν) (ledger : Ledger ν) (place : Place)
    (routes : State ν → Except Failure Bool × State ν) (routeChanges : State ν → List Change) :
    Nat → List (Guard ν) → State ν → List Change
  | _, [], s => routeChanges s
  | i, g :: rest, s =>
    match g.captures? place.path with
    | none => changes host ledger place routes routeChanges (i + 1) rest s
    | some captures =>
      g.callback.changes host ledger (after host place routes i rest)
        (fun s => changes host ledger place routes routeChanges (i + 1) rest
          (s.log (.descend place i)))
        { path := place.path, vars := s.context.vars.merge captures } (s.log (.enter place i))

namespace Route

def serveChanges (host : Host ν) (ledger : Ledger ν) (place : Place) (i : Nat)
    (handlers : Dict (Callback ν .handler)) (s : State ν) : List Change :=
  match handler? handlers s.context.request.method.name with
  | some handler => handler.changesAlone host ledger (s.log (.serve place i))
  | none =>
    [.reported .methodNotAllowed .methodNotAllowed
      (ledger.report .methodNotAllowed .methodNotAllowed (s.log (.refuse place i)))]

mutual

def changes (host : Host ν) (ledger : Ledger ν) (place : Place) (i : Nat) :
    Route ν → State ν → List Change
  | .page pattern handlers, s =>
    match pattern.matchVars? place.path s.context.vars with
    | none => []
    | some vars => serveChanges host ledger place i handlers (s.setVars vars)
  | .mount pattern filters routes, s =>
    match pattern.matchPrefix? place.path Dict.empty with
    | none => []
    | some (suffix, captures) =>
      let below := place.below i suffix
      Guard.changes host ledger below (fun s => dispatchAll host below 0 routes s)
        (fun s => changesAll host ledger below 0 routes s) 0 filters
        (s.setVars (s.context.vars.merge captures))

/-- What routes do to the response, up to the one that deals with the request. -/
def changesAll (host : Host ν) (ledger : Ledger ν) (place : Place) (i : Nat) :
    List (Route ν) → State ν → List Change
  | [], _ => []
  | route :: rest, s =>
    changes host ledger place i route s ++
      match dispatch host place i route s with
      | (.ok false, t) => changesAll host ledger place (i + 1) rest t
      | _ => []

end

end Route

def Router.changes (host : Host ν) (ledger : Ledger ν) (router : Router ν) (path : String)
    (s : State ν) : List Change :=
  let place : Place := { depth := s.context.depth, mounts := [], path }
  Guard.changes host ledger place (fun s => Route.dispatchAll host place 0 router.routes s)
    (fun s => Route.changesAll host ledger place 0 router.routes s) 0 router.filters s

/-- What is done to the response where the dispatch did not deal with the request. -/
def Ledger.settle (ledger : Ledger ν) : Except Failure Bool × State ν → List Change
  | (.ok true, _) => []
  | (.ok false, s) => [.reported .notFound .notFound (ledger.report .notFound .notFound s)]
  | (.error failure, s) =>
    [.reported failure .internalError (ledger.report failure .internalError s)]

namespace Site

/-- What a report does to the response: the edits of the error page, and those of the reports that
it makes itself. -/
def reportEdits (site : Site ν) (page : String → State ν → Except Failure Status × State ν)
    (pageChanges : String → State ν → List Change) :
    (room : Nat) → Failure → Status → State ν → List Edit
  | 0, _, _, _ => []
  | room + 1, failure, status, s =>
    let ledger : Ledger ν :=
      { report := site.reportEdits page pageChanges room, page := pageChanges }
    editsAll ((site.errorPage status).changesAlone (site.hostBy page room) ledger
      (s.record failure))

/-- What the answers of a site do to the response, where `pageLog?` gives the logs of the pages that
can be included. -/
def ledgerBy (site : Site ν) (page : String → State ν → Except Failure Status × State ν)
    (pageLog? : String → State ν → Option (List Change)) (room : Nat) : Ledger ν :=
  let pageChanges (path : String) (s : State ν) : List Change :=
    match pageLog? path s with
    | none => []
    | some log => [.included (Response.after {} (editsAll log)).body]
  { report := site.reportEdits page pageChanges room, page := pageChanges }

/-- The log of an included page, if it can be included. -/
def pageLog? (site : Site ν) : (levels : Nat) → String → State ν → Option (List Change)
  | levels, path, s =>
    match site.root, levels with
    | none, _ => none
    | some _, 0 => none
    | some root, levels + 1 =>
      match s.context.includeRequest path with
      | .error _ => none
      | .ok request =>
        let host := site.hostBy (site.page levels) (site.room + 1)
        let ledger := site.ledgerBy (site.page levels) (site.pageLog? levels) (site.room + 1)
        let start : State ν := { s with context := s.context.child request }
        let target := (Context.includeTarget path).1
        some (root.changes host ledger target start ++
          ledger.settle (root.dispatch host target start))

def ledger (site : Site ν) (context : Context) : Ledger ν :=
  let levels := maxIncludeDepth - context.depth
  site.ledgerBy (site.page levels) (site.pageLog? levels) (site.room + 1)

end Site

/-- The log of a request. -/
def App.changes (app : App ν) (w : World ν) (request : Request) : List Change :=
  let context := app.context request
  let host := (app.site w).host context
  let ledger := (app.site w).ledger context
  let start : State ν := { context, world := w }
  match app.routePath? context.path with
  | none => ledger.settle (.ok false, start)
  | some path =>
    w.published.changes host ledger path start ++
      ledger.settle (w.published.dispatch host path start)

/-! ## Logs are complete -/

/-- The changes of the log lead from one response to the other. What is seen on the way is what is
there, and every report meets the condition in the response that it finds. -/
inductive Recorded (Q : Response → Failure → Status → List Edit → Prop) :
    Response → List Change → Response → Prop
  | nil (r : Response) : Recorded Q r [] r
  | seen {r r' : Response} {log : List Change} (h : Recorded Q r log r') :
      Recorded Q r (.seen r :: log) r'
  | edited {r r' : Response} {log : List Change} (e : Edit) (h : Recorded Q (r.edit e) log r') :
      Recorded Q r (.edited e :: log) r'
  | included {r r' : Response} {log : List Change} (body : Bytes)
      (h : Recorded Q (r.edit (.write body)) log r') : Recorded Q r (.included body :: log) r'
  | reported {r r' : Response} {log : List Change} {failure : Failure} {status : Status}
      {es : List Edit} (hQ : Q r failure status es) (h : Recorded Q (r.after es) log r') :
      Recorded Q r (.reported failure status es :: log) r'

namespace Recorded

variable {Q Q' : Response → Failure → Status → List Edit → Prop} {r r' r'' : Response}
  {log log' : List Change}

theorem append (h : Recorded Q r log r') (h' : Recorded Q r' log' r'') :
    Recorded Q r (log ++ log') r'' := by
  induction h with
  | nil => exact h'
  | seen _ ih => exact .seen (ih h')
  | edited e _ ih => exact .edited e (ih h')
  | included body _ ih => exact .included body (ih h')
  | reported hQ _ ih => exact .reported hQ (ih h')

theorem imp (hQ : ∀ r failure status es, Q r failure status es → Q' r failure status es)
    (h : Recorded Q r log r') : Recorded Q' r log r' := by
  induction h with
  | nil r => exact .nil r
  | seen _ ih => exact .seen ih
  | edited e _ ih => exact .edited e ih
  | included body _ ih => exact .included body ih
  | reported hreport _ ih => exact .reported (hQ _ _ _ _ hreport) ih

theorem eq_after (h : Recorded Q r log r') : r' = r.after (editsAll log) := by
  induction h with
  | nil => rfl
  | seen _ ih | edited _ _ ih | included _ _ ih => exact ih
  | reported hQ _ ih => rw [ih, ← Response.after_append]; rfl

/-- What is seen is what the changes before have made of the response. -/
theorem eq_of_seen {before rest : List Change} {r'' : Response}
    (h : Recorded Q r (before ++ .seen r'' :: rest) r') : r'' = r.after (editsAll before) := by
  induction before generalizing r with
  | nil =>
    cases h with
    | seen => rfl
  | cons first before ih =>
    cases h with
    | seen h | edited _ h | included _ h => exact ih h
    | reported _ h => rw [ih h, ← Response.after_append]; rfl

/-- Each report meets the condition where it stands. -/
theorem report {before rest : List Change} {failure : Failure} {status : Status} {es : List Edit}
    (h : Recorded Q r (before ++ .reported failure status es :: rest) r') :
    Q (r.after (editsAll before)) failure status es := by
  induction before generalizing r with
  | nil =>
    cases h with
    | reported hQ => exact hQ
  | cons first before ih =>
    cases h with
    | seen h | edited _ h | included _ h => exact ih h
    | @reported _ _ _ _ _ es' _ h =>
      have hQ := ih h
      rw [← Response.after_append] at hQ
      exact hQ

end Recorded

/-- The ledger tells all that the answers of the host do to the response. -/
structure Ledger.Tells (Q : Response → Failure → Status → List Edit → Prop) (host : Host ν)
    (ledger : Ledger ν) : Prop where
  condition : ∀ failure status s,
    Q s.context.response failure status (ledger.report failure status s)
  report : ∀ failure status s, (host.report failure status s).context.response =
    s.context.response.after (ledger.report failure status s)
  page : ∀ path s,
    Recorded Q s.context.response (ledger.page path s) (host.page path s).2.context.response

section Run

variable {Q : Response → Failure → Status → List Edit → Prop} {host : Host ν} {ledger : Ledger ν}

/-- If the ledger tells all that the host does, and `nextChanges` all that comes after the callback,
the log tells all of the run. -/
theorem Callback.recorded_run (h : ledger.Tells Q host)
    {next : State ν → Except Failure Bool × State ν} {nextChanges : State ν → List Change}
    (hnext : ∀ s, Recorded Q s.context.response (nextChanges s) (next s).2.context.response)
    {role : Role} (callback : Callback ν role) (p : Passage) (s : State ν) :
    Recorded Q s.context.response (callback.changes host ledger next nextChanges p s)
      (callback.run host next p s).state.context.response := by
  fun_induction Callback.run host next callback p s
  case case1 => exact .nil _
  case case2 ih => exact .seen ih
  case case3 ih | case4 ih | case6 ih | case10 ih | case13 ih | case14 ih => exact ih
  case case5 e k p s ih => exact .edited e ih
  case case7 failure status k p s ih =>
    rw [h.report] at ih
    exact .reported (h.condition failure status s) ih
  case case8 path k p s answer t hpage ih =>
    have hpaged := h.page path s
    rw [hpage] at hpaged
    simp only [changes, hpage]
    exact hpaged.append ih
  case case9 stop steps k p s world registered hregister ih =>
    simp only [changes, hregister]
    exact ih
  case case11 k p s hcalled ih =>
    simp only [changes, hcalled, if_true]
    exact ih
  case case12 k p s hfirst answer t hanswer ih =>
    have hbelow := hnext s
    rw [hanswer] at hbelow
    simp only [changes, hfirst, hanswer]
    exact hbelow.append ih

theorem Callback.recorded_runAlone (h : ledger.Tells Q host) {role : Role}
    (callback : Callback ν role) (s : State ν) :
    Recorded Q s.context.response (callback.changesAlone host ledger s)
      (callback.runAlone host s).2.context.response :=
  callback.recorded_run h (fun s => .nil s.context.response) {} s

theorem Guard.recorded_through (h : ledger.Tells Q host) (place : Place)
    {routes : State ν → Except Failure Bool × State ν} {routeChanges : State ν → List Change}
    (hroutes : ∀ s,
      Recorded Q s.context.response (routeChanges s) (routes s).2.context.response)
    (filters : List (Guard ν)) : ∀ i s,
      Recorded Q s.context.response (changes host ledger place routes routeChanges i filters s)
        (through host place routes i filters s).2.context.response := by
  induction filters with
  | nil => exact fun _ s => hroutes s
  | cons g rest ih =>
    intro i s
    cases hfit : g.captures? place.path with
    | none =>
      rw [through_cons_of_none hfit, changes, hfit]
      exact ih (i + 1) s
    | some captures =>
      rw [through_cons_of_some hfit, changes, hfit]
      have hafter (t : State ν) : Recorded Q t.context.response
          (changes host ledger place routes routeChanges (i + 1) rest (t.log (.descend place i)))
          (after host place routes i rest t).2.context.response :=
        ih (i + 1) (t.log (.descend place i))
      exact g.callback.recorded_run h hafter _ (s.log (.enter place i))

namespace Route

theorem recorded_serve (h : ledger.Tells Q host) (place : Place) (i : Nat)
    (handlers : Dict (Callback ν .handler)) (s : State ν) :
    Recorded Q s.context.response (serveChanges host ledger place i handlers s)
      (serve host place i handlers s).2.context.response := by
  unfold serve serveChanges
  cases handler? handlers s.context.request.method.name with
  | none =>
    dsimp only
    rw [h.report]
    exact .reported (h.condition _ _ (s.log (.refuse place i))) (.nil _)
  | some handler => exact handler.recorded_runAlone h (s.log (.serve place i))

theorem recorded_cons {place : Place} {i : Nat} {route : Route ν} {rest : List (Route ν)}
    {s : State ν}
    (hroute : Recorded Q s.context.response (changes host ledger place i route s)
      (dispatch host place i route s).2.context.response)
    (hrest : ∀ s : State ν,
      Recorded Q s.context.response (changesAll host ledger place (i + 1) rest s)
        (dispatchAll host place (i + 1) rest s).2.context.response) :
    Recorded Q s.context.response (changesAll host ledger place i (route :: rest) s)
      (dispatchAll host place i (route :: rest) s).2.context.response := by
  simp only [changesAll, dispatchAll]
  generalize dispatch host place i route s = answer at hroute ⊢
  rcases answer with ⟨failure | matched, t⟩
  · rwa [List.append_nil]
  · cases matched with
    | true => rwa [List.append_nil]
    | false => exact hroute.append (hrest t)

theorem recorded_dispatchAll (h : ledger.Tells Q host) (routes : List (Route ν)) :
    ∀ place i (s : State ν),
      Recorded Q s.context.response (changesAll host ledger place i routes s)
        (dispatchAll host place i routes s).2.context.response := by
  induction routes using Route.list_induction with
  | nil =>
    intro place i s
    rw [changesAll, dispatchAll]
    exact .nil _
  | page pattern handlers rest ih =>
    intro place i s
    refine recorded_cons ?_ (ih place (i + 1))
    rw [changes, dispatch]
    cases pattern.matchVars? place.path s.context.vars with
    | none => exact .nil _
    | some vars => exact recorded_serve h place i handlers (s.setVars vars)
  | mount pattern filters routes rest ihbelow ih =>
    intro place i s
    refine recorded_cons ?_ (ih place (i + 1))
    rw [changes, dispatch]
    cases pattern.matchPrefix? place.path Dict.empty with
    | none => exact .nil _
    | some found =>
      obtain ⟨suffix, captures⟩ := found
      have hbelow := Guard.recorded_through h (place.below i suffix)
        (fun s => ihbelow (place.below i suffix) 0 s) filters 0
        (s.setVars (s.context.vars.merge captures))
      dsimp only
      generalize Guard.through host (place.below i suffix) _ 0 filters _ = answer at hbelow ⊢
      rcases answer with ⟨failure | matched, t⟩
      · exact hbelow
      · cases matched with
        | true => exact hbelow
        | false =>
          -- setting the variables back does nothing to the response
          dsimp only
          split <;> exact hbelow

end Route

theorem Router.recorded_dispatch (h : ledger.Tells Q host) (router : Router ν) (path : String)
    (s : State ν) :
    Recorded Q s.context.response (router.changes host ledger path s)
      (router.dispatch host path s).2.context.response :=
  Guard.recorded_through h _ (fun s => Route.recorded_dispatchAll h router.routes _ 0 s)
    router.filters 0 s

theorem Ledger.Tells.settle (h : ledger.Tells Q host) (answer : Except Failure Bool × State ν) :
    Recorded Q answer.2.context.response (ledger.settle answer)
      (host.settle answer).context.response := by
  match answer with
  | (.ok true, s) => exact .nil _
  | (.ok false, s) | (.error failure, s) =>
    simp only [Ledger.settle, Host.settle, h.report]
    exact .reported (h.condition ..) (.nil _)

end Run

namespace Site

variable {Q : Response → Failure → Status → List Edit → Prop} {site : Site ν}

/-- Where `pageLog?` gives a log, it is that of the page, and the including page gets the status and
the body. Where it gives none, nothing happens. -/
def Logged (Q : Response → Failure → Status → List Edit → Prop)
    (page : String → State ν → Except Failure Status × State ν)
    (pageLog? : String → State ν → Option (List Change)) : Prop :=
  ∀ path s,
    match pageLog? path s with
    | none => ∃ failure, page path s = (.error failure, s)
    | some log => ∃ r world, Recorded Q {} log r ∧
        page path s = (.ok r.status, { context := s.context.edit (.write r.body), world })

section Logged

variable {page : String → State ν → Except Failure Status × State ν}
  {pageLog? : String → State ν → Option (List Change)}

theorem Logged.recorded_page (h : Logged Q page pageLog?) (site : Site ν) (room : Nat)
    (path : String) (s : State ν) :
    Recorded Q s.context.response ((site.ledgerBy page pageLog? room).page path s)
      (page path s).2.context.response := by
  have hlogged := h path s
  simp only [ledgerBy]
  cases hlog : pageLog? path s with
  | none =>
    rw [hlog] at hlogged
    obtain ⟨failure, heq⟩ := hlogged
    rw [heq]
    exact .nil _
  | some log =>
    rw [hlog] at hlogged
    obtain ⟨r, world, hrecorded, heq⟩ := hlogged
    dsimp only
    rw [heq, ← hrecorded.eq_after]
    exact .included r.body (.nil _)

theorem Logged.response_report (h : Logged Q page pageLog?) (room : Nat) :
    ∀ failure status (s : State ν),
      ((site.hostBy page room).report failure status s).context.response =
        s.context.response.after ((site.ledgerBy page pageLog? room).report failure status s) := by
  induction room with
  | zero => exact fun _ _ _ => rfl
  | succ room ih =>
    intro failure status s
    -- of what the error page asks for, only the edits count here
    have hnested : (site.ledgerBy page pageLog? room).Tells (fun _ _ _ _ => True)
        (site.hostBy page room) :=
      ⟨fun _ _ _ => trivial, ih,
        fun path s => (h.recorded_page site room path s).imp fun _ _ _ _ _ => trivial⟩
    exact ((site.errorPage status).recorded_runAlone hnested (s.record failure)).eq_after

end Logged

/-- All that the error page does meets the condition, whatever pages it can include. -/
def Meets (Q : Response → Failure → Status → List Edit → Prop) (site : Site ν) : Prop :=
  ∀ page pageLog? failure status (s : State ν), Q s.context.response failure status
    ((site.ledgerBy page pageLog? (site.room + 1)).report failure status s)

theorem Meets.tells (hQ : site.Meets Q)
    {page : String → State ν → Except Failure Status × State ν}
    {pageLog? : String → State ν → Option (List Change)} (hpage : Logged Q page pageLog?) :
    (site.ledgerBy page pageLog? (site.room + 1)).Tells Q (site.hostBy page (site.room + 1)) :=
  ⟨hQ page pageLog?, hpage.response_report _, hpage.recorded_page site _⟩

theorem Meets.logged_page (hQ : site.Meets Q) (levels : Nat) :
    Logged Q (site.page levels) (site.pageLog? levels) := by
  induction levels with
  | zero =>
    intro path s
    unfold page pageLog?
    cases site.root <;> exact ⟨_, rfl⟩
  | succ levels ih =>
    intro path s
    unfold page pageLog?
    cases site.root with
    | none => exact ⟨_, rfl⟩
    | some root =>
      cases s.context.includeRequest path with
      | error cause => exact ⟨_, rfl⟩
      | ok request =>
        have htells := hQ.tells ih
        have hdispatch := root.recorded_dispatch htells (Context.includeTarget path).1
          { s with context := s.context.child request }
        exact ⟨_, _, hdispatch.append (htells.settle _), rfl⟩

theorem Meets.tells_ledger (hQ : site.Meets Q) (context : Context) :
    (site.ledger context).Tells Q (site.host context) :=
  hQ.tells (hQ.logged_page _)

end Site

end Signpost
