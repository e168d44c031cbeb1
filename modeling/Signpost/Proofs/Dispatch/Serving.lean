import Signpost.Proofs.Dispatch.Composition
import Signpost.Proofs.Registration.Installing

/-!
# What a bound handler serves

While a request is served, nothing changes the request of its context (`Site.keeps_request`). So two
routes that do the same for the requests of one method can stand in for each other wherever they are
in a tree of routers (`Router.Swapped.dispatch_eq`). In particular, a handler that is bound to a
method has the requests with this method for itself (`Route.ServesFor`), and a handler that is bound
to anything that can be the method of a request is served for it (`Router.handle_servable`).
-/

namespace Signpost

open Http (Method)

variable {ν : Type}

/-! ## The request of a context -/

/-- The request of the context is the same. -/
def State.SameRequest (s t : State ν) : Prop := t.context.request = s.context.request

theorem State.lasting_sameRequest : State.Lasting (State.SameRequest (ν := ν)) where
  refl _ := rfl
  trans hst htu := Eq.trans htu hst
  effect he := by cases he <;> rfl
  record _ _ := rfl
  overflow _ := rfl

namespace Site

theorem sameRequest_page (site : Site ν) (levels : Nat) (path : String) (s : State ν) :
    s.SameRequest (site.page levels path s).2 := by
  rcases site.page_cases levels path s with ⟨failure, heq⟩ | ⟨r, world, heq⟩ <;> rw [heq] <;> rfl

/-- What callbacks ask of a site leaves the request of their context as it is. -/
theorem keeps_request (site : Site ν) (context : Context) :
    (site.host context).Keeps State.SameRequest :=
  site.keeps_hostBy State.lasting_sameRequest (site.sameRequest_page _) _

end Site

/-! ## Parts that do the same -/

section Congr

variable {host : Host ν} {R : State ν → State ν → Prop}

/-- A callback runs the same with anything after it that does the same in the states that it can
come to. -/
theorem Callback.run_congr (h : host.Keeps R)
    {next next' : State ν → Except Failure Bool × State ν} {role : Role}
    (callback : Callback ν role) (p : Passage) (s : State ν)
    (hnext : ∀ t, R s t → next t = next' t) :
    callback.run host next p s = callback.run host next' p s := by
  fun_induction Callback.run host next callback p s
  case case1 => rfl
  case case2 ih | case13 ih | case14 ih => exact ih hnext
  case case3 ih => exact ih fun t ht => hnext t (h.trans (h.effect (.setVars ..)) ht)
  case case4 ih => exact ih fun t ht => hnext t (h.trans (h.effect (.setAttributes ..)) ht)
  case case5 ih => exact ih fun t ht => hnext t (h.trans (h.effect (.edit ..)) ht)
  case case6 ih => exact ih fun t ht => hnext t (h.trans (h.effect (.share ..)) ht)
  case case7 failure status _ _ s ih =>
    exact ih fun t ht => hnext t (h.trans (h.report failure status s) ht)
  case case8 path _ _ s answer t hpage ih =>
    have hR := h.page path s
    rw [hpage] at hR
    rw [run, hpage]
    exact ih fun u hu => hnext u (h.trans hR hu)
  case case9 stop steps _ _ s _ _ hregister ih =>
    have hR := h.effect (.register s stop steps)
    rw [hregister] at hR
    rw [run, hregister]
    exact ih fun u hu => hnext u (h.trans hR hu)
  case case10 ih => exact ih fun t ht => hnext t (h.trans (h.effect (.note ..)) ht)
  case case11 hasked ih =>
    rw [run, if_pos hasked]
    exact ih hnext
  case case12 k p s hfirst answer t hanswer ih =>
    rw [run, if_neg hfirst, ← hnext s (h.refl s), hanswer]
    -- what comes after the filter is not reached again
    exact (run_exhausted host next next' (k answer) _ t rfl).trans
      (run_exhausted host next' next' (k answer) _ t rfl).symm

theorem Guard.through_congr (h : host.Keeps R) (hlog : ∀ (s : State ν) e, R s (s.log e))
    (place : Place) {routes routes' : State ν → Except Failure Bool × State ν}
    (filters : List (Guard ν)) : ∀ i s, (∀ t, R s t → routes t = routes' t) →
      through host place routes i filters s = through host place routes' i filters s := by
  induction filters with
  | nil => exact fun _ s hroutes => hroutes s (h.refl s)
  | cons g rest ih =>
    intro i s hroutes
    cases hfit : g.captures? place.path with
    | none =>
      rw [through_cons_of_none hfit, through_cons_of_none hfit]
      exact ih (i + 1) s hroutes
    | some captures =>
      have hafter : ∀ t, R (s.log (.enter place i)) t →
          after host place routes i rest t = after host place routes' i rest t := by
        intro t ht
        rw [after, after, ih (i + 1) (t.log (.descend place i))]
        intro u hu
        exact hroutes u (h.trans (hlog s _) (h.trans ht (h.trans (hlog t _) hu)))
      rw [through_cons_of_some hfit, through_cons_of_some hfit,
        Callback.run_congr h g.callback _ _ hafter]

end Congr

/-! ## Swapped routes -/

mutual

/-- The second route is the first, or it is so but for routes `new` in place of routes `old` in
it. -/
inductive Route.Swapped (old new : Route ν) : Route ν → Route ν → Prop
  | swap : Swapped old new old new
  | page (pattern : Pattern) (handlers : Dict (Callback ν .handler)) :
      Swapped old new (.page pattern handlers) (.page pattern handlers)
  | mount {pattern : Pattern} {filters : List (Guard ν)} {routes routes' : List (Route ν)}
      (hroutes : Route.SwappedAll old new routes routes') :
      Swapped old new (.mount pattern filters routes) (.mount pattern filters routes')

inductive Route.SwappedAll (old new : Route ν) : List (Route ν) → List (Route ν) → Prop
  | nil : SwappedAll old new [] []
  | cons {route route' : Route ν} {rest rest' : List (Route ν)}
      (hroute : Route.Swapped old new route route') (hrest : Route.SwappedAll old new rest rest') :
      SwappedAll old new (route :: rest) (route' :: rest')

end

/-- The second router has routes `new` in place of routes `old`, anywhere in the tree. -/
structure Router.Swapped (old new : Route ν) (router router' : Router ν) : Prop where
  filters_eq : router.filters = router'.filters
  routes : Route.SwappedAll old new router.routes router'.routes

namespace Route

variable {host : Host ν} {R : State ν → State ν → Prop} {old new : Route ν}

/-- The routes do the same in all states that come after the state. -/
def SameFrom (host : Host ν) (R : State ν → State ν → Prop) (old new : Route ν) (s : State ν) :
    Prop :=
  ∀ t, R s t → ∀ place i, dispatch host place i old t = dispatch host place i new t

theorem SameFrom.later {s t : State ν} (h : host.Keeps R) (hsame : SameFrom host R old new s)
    (ht : R s t) : SameFrom host R old new t :=
  fun u hu => hsame u (h.trans ht hu)

mutual

theorem dispatch_eq_of_swapped (h : host.Keeps R) (hlog : ∀ (s : State ν) e, R s (s.log e))
    (place : Place) (i : Nat) {route route' : Route ν} (s : State ν)
    (hsame : SameFrom host R old new s) : Swapped old new route route' →
      dispatch host place i route s = dispatch host place i route' s
  | .swap => hsame s (h.refl s) place i
  | .page _ _ => rfl
  | @Swapped.mount _ _ _ pattern filters routes routes' hroutes => by
    rw [dispatch, dispatch]
    cases pattern.matchPrefix? place.path Dict.empty with
    | none => rfl
    | some found =>
      obtain ⟨suffix, captures⟩ := found
      have hvars : R s (s.setVars (s.context.vars.merge captures)) := h.effect (.setVars ..)
      have hbelow := Guard.through_congr h hlog (place.below i suffix) filters 0
        (s.setVars (s.context.vars.merge captures)) fun t ht =>
          dispatchAll_eq_of_swapped h hlog (place.below i suffix) 0 t
            (hsame.later h (h.trans hvars ht)) hroutes
      simp only [hbelow]

theorem dispatchAll_eq_of_swapped (h : host.Keeps R) (hlog : ∀ (s : State ν) e, R s (s.log e))
    (place : Place) (i : Nat) {routes routes' : List (Route ν)} (s : State ν)
    (hsame : SameFrom host R old new s) : SwappedAll old new routes routes' →
      dispatchAll host place i routes s = dispatchAll host place i routes' s
  | .nil => rfl
  | @SwappedAll.cons _ _ _ route route' rest rest' hroute hrest => by
    have hR : R s (dispatch host place i route' s).2 := dispatch_keeps h hlog place i route' s
    rw [dispatchAll, dispatchAll, dispatch_eq_of_swapped h hlog place i s hsame hroute]
    generalize dispatch host place i route' s = answer at hR ⊢
    match answer with
    | (.ok true, t) | (.error failure, t) => rfl
    | (.ok false, t) =>
      exact dispatchAll_eq_of_swapped h hlog place (i + 1) t (hsame.later h hR) hrest

end

end Route

/-- Where routes that do the same for the request are swapped, the dispatch is the same. -/
theorem Router.Swapped.dispatch_eq {old new : Route ν} {router router' : Router ν}
    (hswapped : Swapped old new router router') {host : Host ν} (h : host.Keeps State.SameRequest)
    {s : State ν} (hsame : Route.SameFrom host State.SameRequest old new s) (path : String) :
    router.dispatch host path s = router'.dispatch host path s := by
  have hlog : ∀ (s : State ν) e, s.SameRequest (s.log e) := fun _ _ => rfl
  unfold dispatch
  rw [hswapped.filters_eq]
  refine Guard.through_congr h hlog _ router'.filters 0 s fun t ht => ?_
  exact Route.dispatchAll_eq_of_swapped h hlog _ 0 t (hsame.later h ht) hswapped.routes

/-! ## Bound handlers -/

namespace Route

variable {pattern : Pattern} {handlers : Dict (Callback ν .handler)}
  {callback : Callback ν .handler}

/-- A page with a handler for the method of the request: it misses, or it runs the handler. -/
theorem dispatch_page_of_handler? (host : Host ν) (place : Place) (i : Nat) {s : State ν}
    (h : handler? handlers s.context.request.method.name = some callback) :
    dispatch host place i (.page pattern handlers) s =
      match pattern.matchVars? place.path s.context.vars with
      | none => (.ok false, s)
      | some vars =>
        let (result, t) := callback.runAlone host ((s.setVars vars).log (.serve place i))
        (result.map fun _ => true, t.log (.served place i result)) := by
  rw [dispatch]
  cases pattern.matchVars? place.path s.context.vars with
  | none => rfl
  | some vars =>
    have hhandler :
        handler? handlers (s.setVars vars).context.request.method.name = some callback := h
    dsimp only
    rw [serve, hhandler]

/-- The page that has the handler for every method. -/
def always (pattern : Pattern) (callback : Callback ν .handler) : Route ν :=
  .page pattern (Dict.empty.insert anyMethod callback)

theorem handler?_always (callback : Callback ν .handler) (method : String) :
    handler? (Dict.empty.insert anyMethod callback) method = some callback := by
  rw [handler?, Dict.get?_insert, Dict.get?_insert, if_pos rfl]
  split <;> simp

/-- The requests with the method that the page decides are served by the handler. Wherever the page
stands, dispatches of such requests are as if it had the handler for every method. -/
structure ServesFor (m : Method) (callback : Callback ν .handler) (pattern : Pattern)
    (handlers : Dict (Callback ν .handler)) : Prop where
  dispatch_eq : ∀ host place i (s : State ν), s.context.request.method = m →
    dispatch host place i (.page pattern handlers) s =
      match pattern.matchVars? place.path s.context.vars with
      | none => (.ok false, s)
      | some vars =>
        let (result, t) := callback.runAlone host ((s.setVars vars).log (.serve place i))
        (result.map fun _ => true, t.log (.served place i result))
  everywhere : ∀ router router' : Router ν,
    Router.Swapped (.page pattern handlers) (always pattern callback) router router' →
      ∀ (site : Site ν) context path (s : State ν), s.context.request.method = m →
        router.dispatch (site.host context) path s = router'.dispatch (site.host context) path s

theorem servesFor_of_handler? {m : Method} (h : handler? handlers m.name = some callback) :
    ServesFor m callback pattern handlers where
  dispatch_eq host place i s hmethod := by
    apply dispatch_page_of_handler?
    rw [hmethod, h]
  everywhere router router' hswapped site context path s hmethod := by
    refine hswapped.dispatch_eq (site.keeps_request context) (fun t ht place i => ?_) path
    have hrequest : t.context.request = s.context.request := ht
    have hhandler : handler? handlers t.context.request.method.name = some callback := by
      rw [hrequest, hmethod, h]
    rw [always, dispatch_page_of_handler? _ place i hhandler,
      dispatch_page_of_handler? _ place i (handler?_always callback _)]

end Route

/-! ## Registrations -/

namespace Router

variable {router router' : Router ν} {route : String} {callback : Callback ν .handler}

/-- A handler that is installed stands at a page with its pattern, under each of its methods. -/
theorem exists_page_of_handle (h : router.handle route callback = .ok router') :
    ∃ (i : Nat) (pattern : Pattern) (handlers : Dict (Callback ν .handler)),
      router'.routes[i]? = some (.page pattern handlers) ∧
      pattern.text = (RouteSpec.parse route).pattern ∧
      ∀ method ∈ (RouteSpec.parse route).methods, handlers.get? method = some callback := by
  obtain ⟨-, pattern, bound, hcompile, hbind, rfl⟩ |
    ⟨before, pattern, handlers, after, bound, -, htext, hbind, rfl⟩ := handle_cases h
  · obtain ⟨-, hbound⟩ := Route.bind_eq_ok hbind
    refine ⟨router.routes.length, pattern, bound, List.getElem?_concat_length,
      Pattern.text_of_compile hcompile, fun method hmethod => ?_⟩
    rw [hbound, if_pos hmethod]
  · obtain ⟨-, hbound⟩ := Route.bind_eq_ok hbind
    refine ⟨before.length, pattern, bound, by simp, htext, fun method hmethod => ?_⟩
    rw [hbound, if_pos hmethod]

/-- Let a handler be accepted whose route text has no list of methods, or a list in which something
can be the method of a request. Then there is a page with its pattern, and there are methods of
requests that are in the list, in upper case; requests with these that the page decides are served
by the handler. -/
theorem handle_servable (h : router.handle route callback = .ok router')
    (hmethod : ' ' ∉ Text.trim route.toList ∨
      ∃ method ∈ (RouteSpec.parse route).methods, Http.isToken method.toList = true) :
    ∃ (i : Nat) (pattern : Pattern) (handlers : Dict (Callback ν .handler)),
      router'.routes[i]? = some (.page pattern handlers) ∧
      pattern.text = (RouteSpec.parse route).pattern ∧
      (∃ m : Method, m.name ∈ (RouteSpec.parse route).methods ∧
        Route.ServesFor m callback pattern handlers) ∧
      ∀ m : Method, String.ofList (upperAscii m.name.toList) ∈ (RouteSpec.parse route).methods →
        Route.ServesFor m callback pattern handlers := by
  obtain ⟨i, pattern, handlers, hroute, htext, hbound⟩ := exists_page_of_handle h
  have hserves : ∀ m : Method,
      String.ofList (upperAscii m.name.toList) ∈ (RouteSpec.parse route).methods →
        Route.ServesFor m callback pattern handlers := by
    intro m hm
    apply Route.servesFor_of_handler?
    rw [Route.handler?, hbound _ hm, Option.some_or]
  refine ⟨i, pattern, handlers, hroute, htext, ?_, hserves⟩
  have hlisted : ∃ method ∈ (RouteSpec.parse route).methods, Http.isToken method.toList = true := by
    rcases hmethod with hnone | hlisted
    · exact ⟨anyMethod, by simp [RouteSpec.parse_of_not_mem hnone], by decide⟩
    · exact hlisted
  obtain ⟨method, hmem, htoken⟩ := hlisted
  refine ⟨⟨method, htoken⟩, hmem, hserves _ ?_⟩
  rwa [RouteSpec.upperAscii_of_mem_methods hmem]

theorem handle_servable_mixed : ∃ (router : Router Unit) (i : Nat) (pattern : Pattern)
    (handlers : Dict (Callback Unit .handler)),
      ({} : Router Unit).handle "get,G@T /x" .done = .ok router ∧
      router.routes[i]? = some (.page pattern handlers) ∧
      Route.ServesFor Method.get .done pattern handlers := by
  have hok : (({} : Router Unit).handle "get,G@T /x" .done).toOption.isSome = true := by
    decide +kernel
  cases h : ({} : Router Unit).handle "get,G@T /x" .done with
  | error fault =>
    rw [h] at hok
    cases hok
  | ok router =>
    have hmethods : (RouteSpec.parse "get,G@T /x").methods = ["GET", "G@T"] := by decide +kernel
    obtain ⟨i, pattern, handlers, hroute, -, -, hserves⟩ :=
      handle_servable h (.inr ⟨"GET", by simp [hmethods], by decide⟩)
    exact ⟨router, i, pattern, handlers, rfl, hroute, hserves Method.get (by rw [hmethods]; decide)⟩

/-- A handler may be accepted for nothing that can be the method of a request. Its page refuses all
requests that it decides. -/
theorem handle_unservable : ∃ router : Router Unit,
    ({} : Router Unit).handle "G@T /x" .done = .ok router ∧
      ∀ (host : Host Unit) (s : State Unit), ∃ t, router.dispatch host "/x" s =
        (.ok true, host.report .methodNotAllowed .methodNotAllowed t) := by
  have hroute : RouteSpec.parse "G@T /x" = { methods := ["G@T"], pattern := "/x" } := by
    decide +kernel
  have hok : (Pattern.compile .exact "/x").toOption.isSome = true := by decide +kernel
  obtain ⟨page, hpage⟩ := Pattern.exists_compile_of_isSome hok
  refine ⟨_, handle_empty hroute hpage, fun host s => ?_⟩
  have hnone : Route.handler? (Dict.empty.insert "G@T" (.done : Callback Unit .handler))
      s.context.request.method.name = none := by
    have hown : String.ofList (upperAscii s.context.request.method.name.toList) ≠ "G@T" := by
      intro heq
      have hat : '@' ∈ upperAscii s.context.request.method.name.toList := by
        rw [← String.toList_ofList (l := upperAscii _), heq]
        decide
      exact absurd (s.context.request.method.isTokenChar_of_mem_upperAscii '@' hat) (by decide)
    rw [Route.handler?, Dict.get?_insert, if_neg hown, Dict.get?_insert, if_neg (by decide)]
    rfl
  have hliteral : ∀ c ∈ "/x".toList, c ≠ '*' ∧ c ≠ '\x7b' ∧ c ≠ '\x7d' :=
    List.forall_iff_forall_mem.mp (by decide)
  have hmatch : page.isMatch "/x" = true :=
    (Pattern.isMatch_iff_of_literal hliteral hpage "/x").mpr ⟨0, by decide +kernel⟩
  rw [dispatch_ofPage]
  cases hvars : page.matchVars? "/x" s.context.vars with
  | none =>
    rw [Pattern.matchVars?_eq_none_iff.mp hvars] at hmatch
    cases hmatch
  | some vars =>
    have hrefused : Route.handler? (Dict.empty.insert "G@T" (.done : Callback Unit .handler))
        (s.setVars vars).context.request.method.name = none := hnone
    dsimp only
    rw [Route.serve, hrefused]
    exact ⟨_, rfl⟩

end Router

end Signpost
