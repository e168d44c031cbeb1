import Signpost.Proofs.Registration.Installing
import Signpost.Proofs.RouteSpec

/-!
# Lists of methods

A handler for a list of methods is registered as if it were registered for each of them in turn: the
same router comes out, or the same fault (`Router.handleAs_eq_foldlM`). The order of the methods
makes no difference to what succeeds and to the router (`Router.handleAs_perm`), nor does their
case, since they are read in upper case; `Router.handle_each` says so of route texts.
-/

namespace Signpost

variable {ν : Type}

theorem Except.map_map {ε α β γ : Type} (f : α → β) (g : β → γ) (x : Except ε α) :
    (x.map f).map g = x.map (g ∘ f) := by
  cases x <;> rfl

theorem foldlM_congr {ε α β : Type} {f g : β → α → Except ε β} {l : List α}
    (h : ∀ a ∈ l, ∀ b, f b a = g b a) (b : β) : l.foldlM f b = l.foldlM g b := by
  induction l generalizing b with
  | nil => rfl
  | cons a l ih =>
    obtain ⟨ha, hl⟩ := List.forall_mem_cons.mp h
    rw [List.foldlM_cons, List.foldlM_cons, ha]
    exact congrArg _ (funext fun b => ih hl b)

/-! ## Binding in any order -/

namespace Route

/-- What was bound does not depend on the order of the methods. -/
theorem bind_perm {pattern : String} {callback : Callback ν .handler}
    {methods methods' : List String} {handlers bound : Dict (Callback ν .handler)}
    (hperm : methods.Perm methods')
    (h : bind pattern callback methods handlers = .ok bound) :
    bind pattern callback methods' handlers = .ok bound := by
  cases h' : bind pattern callback methods' handlers with
  | error fault =>
    have hrefused : ∃ fault, bind pattern callback methods handlers = .error fault := by
      have herror := (bind_eq_error_iff pattern callback methods' handlers).mp ⟨fault, h'⟩
      rw [← hperm.nodup_iff] at herror
      simp only [← hperm.mem_iff] at herror
      exact (bind_eq_error_iff pattern callback methods handlers).mpr herror
    obtain ⟨fault, herror⟩ := hrefused
    cases h.symm.trans herror
  | ok bound' =>
    have hget := (bind_eq_ok h).2
    have hget' := (bind_eq_ok h').2
    have heq : bound' = bound := Dict.ext_get? fun method => by
      simp only [hget, hget', hperm.mem_iff]
    rw [heq]

theorem map_bind_perm {β : Type} {f : Dict (Callback ν .handler) → β} {b : β} {pattern : String}
    {callback : Callback ν .handler} {methods methods' : List String}
    {handlers : Dict (Callback ν .handler)} (hperm : methods.Perm methods')
    (h : (bind pattern callback methods handlers).map f = .ok b) :
    (bind pattern callback methods' handlers).map f = .ok b := by
  cases hbind : bind pattern callback methods handlers with
  | error fault =>
    rw [hbind] at h
    cases h
  | ok bound =>
    rw [hbind] at h
    rw [bind_perm hperm hbind]
    exact h

end Route

/-! ## Registering what was read -/

namespace Router

/-- Registers a handler for the methods and the pattern of a route text that was read. -/
def handleAs (router : Router ν) (spec : RouteSpec) (callback : Callback ν .handler) :
    Except RegistrationFault (Router ν) :=
  match Route.rebind spec callback router.routes with
  | some routes => routes.map fun routes => { router with routes }
  | none =>
    (Route.create spec callback).map fun route => { router with routes := router.routes ++ [route] }

theorem handle_eq_handleAs (router : Router ν) (route : String) (callback : Callback ν .handler) :
    router.handle route callback = router.handleAs (RouteSpec.parse route) callback := rfl

section HandleAs

variable {router : Router ν} {methods : List String} {text : String}
  (callback : Callback ν .handler)

/-- Without a page that has the pattern, a page is made. -/
theorem handleAs_of_not_mem (methods : List String) (h : text ∉ router.pageTexts) :
    router.handleAs { methods, pattern := text } callback =
      match Pattern.compile .exact text with
      | .error cause => .error (.badPattern cause)
      | .ok pattern => (Route.bind text callback methods Dict.empty).map fun bound =>
          { router with routes := router.routes ++ [.page pattern bound] } := by
  rw [handleAs, Route.rebind_eq_none { methods, pattern := text } callback h, Route.create]
  cases Pattern.compile .exact text with
  | error cause => rfl
  | ok pattern => exact Except.map_map _ _ _

/-- The first page that has the pattern gets the handler. -/
theorem handleAs_of_page (methods : List String) (filters : List (Guard ν))
    {before : List (Route ν)} (hbefore : text ∉ before.filterMap Route.pageText?)
    {pattern : Pattern} (htext : pattern.text = text) (handlers : Dict (Callback ν .handler))
    (after : List (Route ν)) :
    ({ filters, routes := before ++ .page pattern handlers :: after } : Router ν).handleAs
        { methods, pattern := text } callback =
      (Route.bind text callback methods handlers).map fun bound =>
        { filters, routes := before ++ .page pattern bound :: after } := by
  subst htext
  rw [handleAs, Route.rebind_eq_some { methods, pattern := pattern.text } callback hbefore rfl
    handlers after]
  exact Except.map_map _ _ _

/-- The first method, and then the others. -/
theorem handleAs_cons (router : Router ν) (method : String) (methods : List String)
    (text : String) :
    router.handleAs { methods := method :: methods, pattern := text } callback =
      (router.handleAs { methods := [method], pattern := text } callback).bind fun router =>
        router.handleAs { methods, pattern := text } callback := by
  obtain hnew | ⟨before, pattern, handlers, after, hroutes, htext, hbefore⟩ :=
    Route.exists_first_page text router.routes
  · rw [handleAs_of_not_mem callback _ hnew, handleAs_of_not_mem callback _ hnew]
    cases hcompile : Pattern.compile .exact text with
    | error cause => rfl
    | ok pattern =>
      have hpattern := Pattern.text_of_compile hcompile
      simp only [Route.bind, Dict.contains, Dict.get?_empty, Option.isSome_none,
        Bool.false_eq_true, if_false, Except.map, Except.bind]
      exact (handleAs_of_page callback methods router.filters hnew hpattern _ []).symm
  · obtain ⟨filters, routes⟩ := router
    obtain rfl : routes = _ := hroutes
    rw [handleAs_of_page callback _ filters hbefore htext handlers after,
      handleAs_of_page callback _ filters hbefore htext handlers after, Route.bind, Route.bind]
    split
    · rfl
    · exact (handleAs_of_page callback methods filters hbefore htext _ after).symm

/-- A handler for several methods is registered for one after the other. -/
theorem handleAs_eq_foldlM (hne : methods ≠ []) (router : Router ν) (text : String) :
    router.handleAs { methods, pattern := text } callback =
      methods.foldlM (fun router method =>
        router.handleAs { methods := [method], pattern := text } callback) router := by
  induction methods generalizing router with
  | nil => exact absurd rfl hne
  | cons method methods ih =>
    rw [List.foldlM_cons]
    cases methods with
    | nil => exact (bind_pure _).symm
    | cons next rest =>
      rw [handleAs_cons]
      exact congrArg _ (funext fun router => ih (List.cons_ne_nil next rest) router)

theorem handleAs_perm {methods' : List String} {router' : Router ν} (hperm : methods.Perm methods')
    (h : router.handleAs { methods, pattern := text } callback = .ok router') :
    router.handleAs { methods := methods', pattern := text } callback = .ok router' := by
  obtain hnew | ⟨before, pattern, handlers, after, hroutes, htext, hbefore⟩ :=
    Route.exists_first_page text router.routes
  · rw [handleAs_of_not_mem callback _ hnew] at h ⊢
    cases hcompile : Pattern.compile .exact text with
    | error cause =>
      rw [hcompile] at h
      cases h
    | ok pattern =>
      rw [hcompile] at h
      exact Route.map_bind_perm hperm h
  · obtain ⟨filters, routes⟩ := router
    obtain rfl : routes = _ := hroutes
    rw [handleAs_of_page callback _ filters hbefore htext handlers after] at h ⊢
    exact Route.map_bind_perm hperm h

end HandleAs

/-! ## Route texts -/

/-- A handler for a list of methods comes to the same as one for each method in turn, with the same
pattern. Lists that hold the same methods in another order or in another case come to the same
router, if to any. -/
theorem handle_each (router : Router ν) (callback : Callback ν .handler) {pattern : String}
    (hpattern : ∃ c ∈ pattern.toList, Text.isBlank c = false) {methods : List String}
    (hne : methods ≠ []) (h : ∀ method ∈ methods, RouteSpec.IsEntry method) :
    router.handle (",".intercalate methods ++ " " ++ pattern) callback =
        methods.foldlM (fun router method => router.handle (method ++ " " ++ pattern) callback)
          router ∧
      ∀ methods' : List String, (∀ method ∈ methods', RouteSpec.IsEntry method) →
        (methods'.map fun method => upperAscii method.toList).Perm
          (methods.map fun method => upperAscii method.toList) →
        ∀ router',
          router.handle (",".intercalate methods' ++ " " ++ pattern) callback = .ok router' ↔
          router.handle (",".intercalate methods ++ " " ++ pattern) callback = .ok router' := by
  let text := Path.clean (String.ofList (Text.trim (Text.trimEnd pattern.toList)))
  let upper (method : String) : String := String.ofList (upperAscii method.toList)
  have hlist {methods : List String} (hne : methods ≠ [])
      (h : ∀ method ∈ methods, RouteSpec.IsEntry method) (router : Router ν) :
      router.handle (",".intercalate methods ++ " " ++ pattern) callback =
        router.handleAs { methods := methods.map upper, pattern := text } callback := by
    rw [handle_eq_handleAs, RouteSpec.parse_list_trim hne h hpattern]
  refine ⟨?_, fun methods' h' hperm router' => ?_⟩
  · have hone : ∀ method ∈ methods, ∀ router : Router ν,
        router.handleAs { methods := [upper method], pattern := text } callback =
          router.handle (method ++ " " ++ pattern) callback := by
      intro method hmem router
      have hentry : ∀ method' ∈ [method], RouteSpec.IsEntry method' := by simpa using h method hmem
      exact (hlist (List.cons_ne_nil method []) hentry router).symm
    rw [hlist hne h, handleAs_eq_foldlM callback (by simpa using hne), List.foldlM_map]
    exact foldlM_congr hone router
  · have hne' : methods' ≠ [] := by
      rintro rfl
      exact hne (List.map_eq_nil_iff.mp hperm.nil_eq.symm)
    have hupper : (methods'.map upper).Perm (methods.map upper) := by
      have hperm := hperm.map String.ofList
      rwa [List.map_map, List.map_map] at hperm
    rw [hlist hne h, hlist hne' h']
    exact ⟨handleAs_perm callback hupper, handleAs_perm callback hupper.symm⟩

/-- The pattern is there already, spelled otherwise and with another method. -/
theorem handle_each_spelled :
    let answer : Callback Empty .handler := .done
    ∃ router router' : Router Empty, ({} : Router Empty).handle "POST /x" answer = .ok router ∧
      router.handle "get,Put  /./x/" answer = .ok router' ∧
      ["get", "Put"].foldlM (fun router method => router.handle (method ++ " " ++ " /./x/") answer)
        router = .ok router' ∧
      router.handle "PUT,GET  /./x/" answer = .ok router' := by
  intro answer
  have hfirst : (({} : Router Empty).handle "POST /x" answer).toOption.isSome = true := by
    decide +kernel
  have hboth : ((({} : Router Empty).handle "POST /x" answer).bind fun router =>
      router.handle "get,Put  /./x/" answer).toOption.isSome = true := by
    decide +kernel
  cases hrouter : ({} : Router Empty).handle "POST /x" answer with
  | error fault =>
    rw [hrouter] at hfirst
    cases hfirst
  | ok router =>
    cases hlist : router.handle "get,Put  /./x/" answer with
    | error fault =>
      simp only [hrouter, Except.bind, hlist] at hboth
      cases hboth
    | ok router' =>
      have htext : ",".intercalate ["get", "Put"] ++ " " ++ " /./x/" = "get,Put  /./x/" := by decide
      have htext' : ",".intercalate ["PUT", "GET"] ++ " " ++ " /./x/" = "PUT,GET  /./x/" := by
        decide
      have hpattern : ∃ c ∈ " /./x/".toList, Text.isBlank c = false :=
        ⟨'/', by decide, by decide⟩
      have hentries : ∀ method ∈ ["get", "Put"], RouteSpec.IsEntry method :=
        List.forall_mem_cons.mpr ⟨RouteSpec.isEntry_name ⟨"get", by decide⟩,
          List.forall_mem_singleton.mpr (RouteSpec.isEntry_name ⟨"Put", by decide⟩)⟩
      have hentries' : ∀ method ∈ ["PUT", "GET"], RouteSpec.IsEntry method :=
        List.forall_mem_cons.mpr ⟨RouteSpec.isEntry_name ⟨"PUT", by decide⟩,
          List.forall_mem_singleton.mpr (RouteSpec.isEntry_name ⟨"GET", by decide⟩)⟩
      have h := handle_each router answer hpattern (List.cons_ne_nil "get" ["Put"]) hentries
      rw [htext] at h
      have hany := h.2 ["PUT", "GET"] hentries' (by decide)
      rw [htext'] at hany
      exact ⟨router, router', rfl, hlist, h.1.symm.trans hlist, (hany router').mpr hlist⟩

end Router

end Signpost
