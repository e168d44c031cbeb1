import Signpost.Proofs.Dispatch.Run
import Signpost.Proofs.Regex.Evaluation

/-!
# Dispatch as a scan

If the filters pass everything on, the nesting of routers does not matter: a dispatch goes through
the pages of the whole tree, depth first and in the order of registration (`Router.leaves`), and the
first one that is for the path decides (`Router.dispatch_scanned`). A page is for the path if each
mount above it and then the page itself match what the mount before left over. Its handler sees the
variables with the captures of all of them laid over one another, the deepest on top, and nothing of
the mounts that were tried in vain.
-/

namespace Signpost

variable {ν : Type}

/-! ## Filters that pass everything on -/

/-- The state `t` comes after `s`, for the same request and with the same variables. -/
structure State.Continues (s t : State ν) : Prop where
  vars : t.context.vars = s.context.vars
  request : t.context.request = s.context.request
  trail : s.world.trail <:+ t.world.trail

namespace State.Continues

variable {s t u : State ν}

@[simp]
theorem refl (s : State ν) : s.Continues s := ⟨rfl, rfl, List.suffix_refl _⟩

theorem trans (hst : s.Continues t) (htu : t.Continues u) : s.Continues u :=
  ⟨htu.vars.trans hst.vars, htu.request.trans hst.request, hst.trail.trans htu.trail⟩

theorem log (h : s.Continues t) (e : Event ν) : s.Continues (t.log e) :=
  ⟨h.vars, h.request, h.trail.trans (List.suffix_cons e _)⟩

theorem of_log {e : Event ν} (h : (s.log e).Continues t) : s.Continues t :=
  ((refl s).log e).trans h

end State.Continues

/-- A filter that asks for what comes after it, whatever that is, gives the answer back without
claiming the request, and leaves the variables as they are before and after. (There is no action of
a `Callback` that replaces the request or changes the past.) -/
def Callback.PassesThrough (host : Host ν) (callback : Callback ν .filter) : Prop :=
  ∀ (next : State ν → Except Failure Bool × State ν) (p : Passage) (s : State ν),
    p.nextCalled = false → p.claimed = false →
      ∃ t, s.Continues t ∧
        let o := callback.run host next p s
        o.result = (next t).1.map (fun _ => ()) ∧ o.passage = p.answered (next t).1 ∧
          (next t).2.Continues o.state

def Callback.passOn : Callback ν .filter := .next fun answer => .finish (answer.map fun _ => ())

theorem Callback.passesThrough_passOn (host : Host ν) : passOn.PassesThrough host := by
  intro next p s hnext _
  refine ⟨s, .refl s, ?_⟩
  simp [passOn, run, hnext]

/-- A filter list that passes everything on gives the answer of the routes. -/
theorem Guard.through_of_passesThrough {host : Host ν} (place : Place)
    (routes : State ν → Except Failure Bool × State ν) (gs : List (Guard ν))
    (h : ∀ g ∈ gs, g.callback.PassesThrough host) : ∀ i s, ∃ t, s.Continues t ∧
      (through host place routes i gs s).1 = (routes t).1 ∧
        (routes t).2.Continues (through host place routes i gs s).2 := by
  induction gs with
  | nil => exact fun i s => ⟨s, .refl s, rfl, .refl _⟩
  | cons g rest ih =>
    intro i s
    have hrest := ih fun g hg => h g (List.mem_cons_of_mem _ hg)
    cases hfit : g.captures? place.path with
    | none =>
      rw [through_cons_of_none hfit]
      exact hrest (i + 1) s
    | some captures =>
      rw [through_cons_of_some hfit]
      obtain ⟨t, hst, hresult, hpassage, hafter⟩ := h g List.mem_cons_self
        (after host place routes i rest)
        { path := place.path, vars := s.context.vars.merge captures } (s.log (.enter place i))
        rfl rfl
      obtain ⟨u, htu, hanswer, hroutes⟩ := hrest (i + 1) (t.log (.descend place i))
      refine ⟨u, hst.of_log.trans htu.of_log, ?_, ((hroutes.log _).trans hafter).log _⟩
      simp only [← hanswer, hresult, hpassage, after, Passage.handled, Passage.answered]
      cases (through host place routes (i + 1) rest (t.log (.descend place i))).1 <;>
        simp [Except.map, Passage.matched]

/-! ## Leaves -/

/-- A page in a tree of routers, below mounts, the outermost first. Mounts and the page are given
with their positions. -/
structure Leaf (ν : Type) where
  mounts : List (Nat × Pattern)
  position : Nat
  pattern : Pattern
  handlers : Dict (Callback ν .handler)

namespace Leaf

def under (i : Nat) (pattern : Pattern) (leaf : Leaf ν) : Leaf ν :=
  { leaf with mounts := (i, pattern) :: leaf.mounts }

/-- Goes down through mounts: where that leads, and the variables with the captures of the mounts
laid over them. -/
def descend : List (Nat × Pattern) → Place → Vars → Option (Place × Vars)
  | [], place, vars => some (place, vars)
  | (i, pattern) :: mounts, place, vars =>
    (pattern.matchPrefix? place.path Dict.empty).bind fun (suffix, captures) =>
      descend mounts (place.below i suffix) (vars.merge captures)

/-- Where the page of the leaf is reached and the variables with all captures laid over them, if the
leaf is for the path. -/
def fit? (leaf : Leaf ν) (place : Place) (vars : Vars) : Option (Place × Vars) :=
  (descend leaf.mounts place vars).bind fun (here, vars) =>
    (leaf.pattern.matchVars? here.path Dict.empty).map fun captures => (here, vars.merge captures)

/-- The first of the leaves that is for the path, where it is reached, and the variables there. -/
def scan (leaves : List (Leaf ν)) (place : Place) (vars : Vars) : Option (Leaf ν × Place × Vars) :=
  leaves.findSome? fun leaf => (leaf.fit? place vars).map (leaf, ·)

end Leaf

namespace Route

mutual

/-- The pages of the route at the position `i`. -/
def leaves (i : Nat) : Route ν → List (Leaf ν)
  | .page pattern handlers => [⟨[], i, pattern, handlers⟩]
  | .mount pattern _ routes => (leavesAll 0 routes).map (.under i pattern)

/-- The pages of routes, depth first and in order. The first route has the position `i`. -/
def leavesAll (i : Nat) : List (Route ν) → List (Leaf ν)
  | [] => []
  | route :: rest => leaves i route ++ leavesAll (i + 1) rest

end

mutual

/-- The filters of the router that is mounted at the route and of those below it. -/
def filters : Route ν → List (Guard ν)
  | .page _ _ => []
  | .mount _ gs routes => gs ++ filtersAll routes

def filtersAll : List (Route ν) → List (Guard ν)
  | [] => []
  | route :: rest => filters route ++ filtersAll rest

end

end Route

namespace Router

/-- The pages of a tree of routers, depth first and in the order of registration. -/
def leaves (router : Router ν) : List (Leaf ν) := Route.leavesAll 0 router.routes

def allFilters (router : Router ν) : List (Guard ν) :=
  router.filters ++ Route.filtersAll router.routes

end Router

/-! ## Variables of a match -/

namespace Pattern

theorem capture_merge (p : Pattern) (c : Regex.Captures) (vars other : Vars) :
    p.capture c (vars.merge other) = vars.merge (p.capture c other) := by
  unfold capture
  induction p.regex.namedGroups generalizing other with
  | nil => rfl
  | cons group rest ih =>
    obtain ⟨name, i⟩ := group
    rw [List.foldl_cons, List.foldl_cons]
    simp only [← Dict.merge_insert, ih]

theorem matchVars?_eq_map_merge (p : Pattern) (path : String) (vars : Vars) :
    p.matchVars? path vars = (p.matchVars? path Dict.empty).map vars.merge := by
  unfold matchVars?
  cases p.regex.captures? path with
  | none => rfl
  | some c => exact congrArg some (p.capture_merge c vars Dict.empty)

end Pattern

/-! ## Scans -/

namespace Leaf

variable {place : Place} {vars : Vars}

theorem fit?_under (i : Nat) (pattern : Pattern) (leaf : Leaf ν) :
    (leaf.under i pattern).fit? place vars =
      (pattern.matchPrefix? place.path Dict.empty).bind fun (suffix, captures) =>
        leaf.fit? (place.below i suffix) (vars.merge captures) := by
  simp only [fit?, under, descend, Option.bind_assoc]

theorem fit?_page (i : Nat) (pattern : Pattern) (handlers : Dict (Callback ν .handler)) :
    Leaf.fit? ⟨[], i, pattern, handlers⟩ place vars =
      (pattern.matchVars? place.path vars).map (place, ·) := by
  rw [pattern.matchVars?_eq_map_merge, Option.map_map]
  rfl

theorem scan_append (leaves leaves' : List (Leaf ν)) :
    scan (leaves ++ leaves') place vars = (scan leaves place vars).or (scan leaves' place vars) :=
  List.findSome?_append

theorem scan_under_of_none {i : Nat} {pattern : Pattern} (leaves : List (Leaf ν))
    (h : pattern.matchPrefix? place.path Dict.empty = none) :
    scan (leaves.map (.under i pattern)) place vars = none := by
  simp [scan, fit?_under, h]

theorem scan_under_of_some {i : Nat} {pattern : Pattern} {suffix : String} {captures : Vars}
    (leaves : List (Leaf ν))
    (h : pattern.matchPrefix? place.path Dict.empty = some (suffix, captures)) :
    scan (leaves.map (.under i pattern)) place vars =
      (scan leaves (place.below i suffix) (vars.merge captures)).map fun (leaf, found) =>
        (leaf.under i pattern, found) := by
  induction leaves with
  | nil => rfl
  | cons leaf rest ih =>
    simp only [scan, List.map_cons, List.findSome?_cons, fit?_under, h, Option.bind_some] at ih ⊢
    cases leaf.fit? (place.below i suffix) (vars.merge captures) with
    | none => exact ih
    | some found => rfl

end Leaf

/-- The answer is that of the page of the leaf, reached at the place `here` with the variables
`vars`: of the handler for the method, or else of the one for all methods; without either, the
request is refused and still counts as dealt with. -/
def Leaf.Decides (host : Host ν) (leaf : Leaf ν) (here : Place) (vars : Vars) (s : State ν)
    (answer : Except Failure Bool × State ν) : Prop :=
  ∃ t : State ν, t.context.vars = vars ∧ t.context.request = s.context.request ∧
    s.world.trail <:+ t.world.trail ∧
    match (leaf.handlers.get? (String.ofList (upperAscii s.context.request.method.name.toList))).or
        (leaf.handlers.get? anyMethod) with
    | some handler =>
      let served := handler.runAlone host (t.log (.serve here leaf.position))
      answer.1 = served.1.map (fun _ => true) ∧
        (served.2.log (.served here leaf.position served.1)).Continues answer.2
    | none =>
      answer.1 = .ok true ∧
        (host.report .methodNotAllowed .methodNotAllowed
          (t.log (.refuse here leaf.position))).Continues answer.2

/-- The answer is that of the first leaf that is for the path; without one, nothing matched and the
variables are what they were. -/
def Leaf.Scanned (host : Host ν) (leaves : List (Leaf ν)) (place : Place) (s : State ν)
    (answer : Except Failure Bool × State ν) : Prop :=
  match Leaf.scan leaves place s.context.vars with
  | none => answer.1 = .ok false ∧ s.Continues answer.2
  | some (leaf, here, vars) => leaf.Decides host here vars s answer

namespace Leaf.Decides

variable {host : Host ν} {leaf : Leaf ν} {here : Place} {vars : Vars} {s : State ν}
  {answer : Except Failure Bool × State ν}

theorem answer_ne (h : leaf.Decides host here vars s answer) : answer.1 ≠ .ok false := by
  obtain ⟨t, -, -, -, h⟩ := h
  split at h
  · rw [h.1]
    generalize (Callback.runAlone host _ _).1 = result
    cases result <;> simp [Except.map]
  · simp [h.1]

theorem continues {answer' : State ν} (h : leaf.Decides host here vars s answer)
    (hafter : answer.2.Continues answer') : leaf.Decides host here vars s (answer.1, answer') := by
  obtain ⟨t, hvars, hrequest, htrail, h⟩ := h
  refine ⟨t, hvars, hrequest, htrail, ?_⟩
  split at h
  · exact ⟨h.1, h.2.trans hafter⟩
  · exact ⟨h.1, h.2.trans hafter⟩

theorem of_request {s' : State ν} (h : leaf.Decides host here vars s answer)
    (hrequest : s.context.request = s'.context.request)
    (htrail : s'.world.trail <:+ s.world.trail) : leaf.Decides host here vars s' answer := by
  obtain ⟨t, hvars, hsame, hsuffix, h⟩ := h
  rw [hrequest] at h hsame
  exact ⟨t, hvars, hsame, htrail.trans hsuffix, h⟩

end Leaf.Decides

theorem Leaf.Scanned.of_continues {host : Host ν} {leaves : List (Leaf ν)} {place : Place}
    {s s' : State ν} {answer : Except Failure Bool × State ν} (hs : s.Continues s')
    (h : Scanned host leaves place s' answer) : Scanned host leaves place s answer := by
  unfold Scanned at h ⊢
  rw [hs.vars] at h
  split at h
  · exact ⟨h.1, hs.trans h.2⟩
  · exact h.of_request hs.request hs.trail

theorem Leaf.Scanned.continues {host : Host ν} {leaves : List (Leaf ν)} {place : Place}
    {s u : State ν} {answer : Except Failure Bool × State ν}
    (h : Scanned host leaves place s answer) (hafter : answer.2.Continues u) :
    Scanned host leaves place s (answer.1, u) := by
  unfold Scanned at h ⊢
  split at h
  · exact ⟨h.1, h.2.trans hafter⟩
  · exact h.continues hafter

/-- What is left is scanned if nothing matched before. -/
theorem Leaf.Scanned.append {host : Host ν} {leaves leaves' : List (Leaf ν)} {place : Place}
    {s : State ν} {rest : State ν → Except Failure Bool × State ν}
    (hrest : ∀ t, Scanned host leaves' place t (rest t)) :
    ∀ {answer : Except Failure Bool × State ν}, Scanned host leaves place s answer →
      Scanned host (leaves ++ leaves') place s
        (match answer with
          | (.ok false, t) => rest t
          | answer => answer) := by
  rintro ⟨a, t⟩ h
  unfold Scanned at h ⊢
  rw [scan_append]
  cases hscan : scan leaves place s.context.vars with
  | none =>
    rw [hscan] at h
    obtain ⟨rfl, hst⟩ := h
    rw [Option.none_or]
    exact (hrest t).of_continues hst
  | some found =>
    obtain ⟨leaf, here, vars⟩ := found
    rw [hscan] at h
    have hne : a ≠ .ok false := h.answer_ne
    match a with
    | .ok false => exact absurd rfl hne
    | .ok true => exact h
    | .error failure => exact h

/-! ## Dispatches are scans -/

namespace Route

variable {host : Host ν}

theorem decides_serve (place : Place) (i : Nat) (pattern : Pattern)
    (handlers : Dict (Callback ν .handler)) (vars : Vars) (s : State ν) :
    Leaf.Decides host ⟨[], i, pattern, handlers⟩ place vars s
      (serve host place i handlers (s.setVars vars)) := by
  refine ⟨s.setVars vars, rfl, rfl, List.suffix_refl _, ?_⟩
  unfold serve
  change match handler? handlers s.context.request.method.name with
    | some _ => _
    | none => _
  cases hhandler : handler? handlers s.context.request.method.name with
  | some handler =>
    have hmethod : handler? handlers (s.setVars vars).context.request.method.name = some handler :=
      hhandler
    rw [hmethod]
    exact ⟨rfl, .refl _⟩
  | none =>
    have hmethod : handler? handlers (s.setVars vars).context.request.method.name = none := hhandler
    rw [hmethod]
    exact ⟨rfl, .refl _⟩

theorem scanned_page (place : Place) (i : Nat) (pattern : Pattern)
    (handlers : Dict (Callback ν .handler)) (s : State ν) :
    Leaf.Scanned host (leaves i (.page pattern handlers)) place s
      (dispatch host place i (.page pattern handlers) s) := by
  rw [dispatch, leaves, Leaf.Scanned, Leaf.scan, List.findSome?_cons, Leaf.fit?_page]
  cases hvars : pattern.matchVars? place.path s.context.vars with
  | none => exact ⟨rfl, .refl s⟩
  | some vars => exact decides_serve place i pattern handlers vars s

/-- A mount is scanned if the routes below it are. -/
theorem scanned_mount (place : Place) (i : Nat) (pattern : Pattern) (gs : List (Guard ν))
    (routes : List (Route ν)) (s : State ν) (hgs : ∀ g ∈ gs, g.callback.PassesThrough host)
    (hbelow : ∀ place s,
      Leaf.Scanned host (leavesAll 0 routes) place s (dispatchAll host place 0 routes s)) :
    Leaf.Scanned host (leaves i (.mount pattern gs routes)) place s
      (dispatch host place i (.mount pattern gs routes) s) := by
  rw [dispatch, leaves]
  cases hmount : pattern.matchPrefix? place.path Dict.empty with
  | none =>
    rw [Leaf.Scanned, Leaf.scan_under_of_none _ hmount]
    exact ⟨rfl, .refl s⟩
  | some found =>
    obtain ⟨suffix, captures⟩ := found
    rw [Leaf.Scanned, Leaf.scan_under_of_some _ hmount]
    simp only []
    -- the filters of the mounted router lead to its routes, in a state that goes on from `s`
    obtain ⟨t, hst, hanswer, hafter⟩ := Guard.through_of_passesThrough (place.below i suffix)
      (dispatchAll host (place.below i suffix) 0 routes) gs hgs 0
      (s.setVars (s.context.vars.merge captures))
    have hvars : t.context.vars = s.context.vars.merge captures := hst.vars
    have hscanned := (hbelow (place.below i suffix) t).continues hafter
    rw [← hanswer, Leaf.Scanned, hvars] at hscanned
    generalize Guard.through host (place.below i suffix) _ 0 gs _ = answer at hscanned ⊢
    obtain ⟨a, u⟩ := answer
    cases hscan : Leaf.scan (leavesAll 0 routes) (place.below i suffix)
        (s.context.vars.merge captures) with
    | none =>
      rw [hscan] at hscanned
      obtain ⟨rfl, htu⟩ := hscanned
      have hsu : (s.setVars (s.context.vars.merge captures)).Continues u := hst.trans htu
      -- without captures the variables were never changed, otherwise they are put back
      have hback : s.Continues
          (if captures.isEmpty = true then u else u.setVars s.context.vars) := by
        split
        · rename_i hempty
          rw [Dict.merge_of_isEmpty _ hempty] at hsu
          exact ⟨hsu.vars, hsu.request, hsu.trail⟩
        · exact ⟨rfl, hsu.request, hsu.trail⟩
      exact ⟨rfl, hback⟩
    | some found =>
      obtain ⟨leaf, here, vars⟩ := found
      rw [hscan] at hscanned
      have hdecides : (leaf.under i pattern).Decides host here vars s (a, u) :=
        Leaf.Decides.of_request hscanned hst.request hst.trail
      have hne : a ≠ .ok false := hdecides.answer_ne
      cases a with
      | error failure => exact hdecides
      | ok matched =>
        cases matched with
        | false => exact absurd rfl hne
        | true => exact hdecides

theorem scanned_dispatchAll (routes : List (Route ν))
    (h : ∀ g ∈ filtersAll routes, g.callback.PassesThrough host) : ∀ place i s,
      Leaf.Scanned host (leavesAll i routes) place s (dispatchAll host place i routes s) := by
  induction routes using Route.list_induction with
  | nil => exact fun place i s => ⟨rfl, .refl s⟩
  | page pattern handlers rest ih =>
    intro place i s
    rw [dispatchAll, leavesAll]
    exact (scanned_page place i pattern handlers s).append (ih h place (i + 1))
  | mount pattern gs routes rest ihbelow ih =>
    intro place i s
    simp only [filtersAll, filters, List.mem_append, or_imp, forall_and] at h
    obtain ⟨⟨hgs, hbelow⟩, hrest⟩ := h
    have hmount := scanned_mount place i pattern gs routes s hgs fun place s =>
      ihbelow hbelow place 0 s
    rw [dispatchAll, leavesAll]
    exact hmount.append (ih hrest place (i + 1))

end Route

/-- A dispatch through filters that pass everything on is the scan of the pages of the whole tree.
-/
theorem Router.dispatch_scanned (host : Host ν) (router : Router ν) (path : String) (s : State ν)
    (h : ∀ g ∈ router.allFilters, g.callback.PassesThrough host) :
    Leaf.Scanned host router.leaves { depth := s.context.depth, mounts := [], path } s
      (router.dispatch host path s) := by
  simp only [allFilters, List.mem_append, or_imp, forall_and] at h
  obtain ⟨hfilters, hroutes⟩ := h
  let place : Place := { depth := s.context.depth, mounts := [], path }
  obtain ⟨t, hst, hanswer, hafter⟩ := Guard.through_of_passesThrough place
    (Route.dispatchAll host place 0 router.routes) router.filters hfilters 0 s
  have hscanned := (Route.scanned_dispatchAll router.routes hroutes place 0 t).of_continues hst
  have hsame := hscanned.continues hafter
  rwa [← hanswer] at hsame

/-- The captures of a page are laid over those of the mounts above it. -/
theorem Router.dispatch_scanned_mounted : ∃ p q,
    Pattern.compile .mount "/\x7ba\x7d" = .ok p ∧ Pattern.compile .exact "/\x7ba\x7d" = .ok q ∧
      let router : Router Unit :=
        { filters := [⟨none, .passOn⟩]
          routes := [.mount p [⟨some q, .passOn⟩] [.page q (Dict.empty.insert anyMethod .done)]] }
      let host : Host Unit := { report := fun _ _ s => s, page := fun _ s => (.ok .ok, s) }
      let answer := router.dispatch host "/7/x" ⟨{ request := default }, {}⟩
      answer.1 = .ok true ∧ answer.2.context.vars.get? "a" = some "x" := by
  obtain ⟨p, c, hp, hc, hmount⟩ := Pattern.exists_compile_eq .mount "/\x7ba\x7d" "/7/x" 100
    (fun p c => (p.mode, Path.clean ((c.group? p.regex.groupNames.length).getD "")))
    (.mount, "/x") (by decide +kernel)
  obtain ⟨q, d, hq, hd, hpage⟩ := Pattern.exists_compile_eq .exact "/\x7ba\x7d" "/x" 100
    (fun q d => (q.capture d Dict.empty).get? "a") (some "x") (by decide +kernel)
  refine ⟨p, q, hp, hq, ?_⟩
  intro router host answer
  have hpass : ∀ g ∈ router.allFilters, g.callback.PassesThrough host := by
    simp [router, allFilters, Route.filtersAll, Route.filters, Callback.passesThrough_passOn]
  have hscanned := router.dispatch_scanned host "/7/x" ⟨{ request := default }, {}⟩ hpass
  have hsuffix : p.matchPrefix? "/7/x" Dict.empty = some ("/x", p.capture c Dict.empty) := by
    rw [Prod.mk.injEq] at hmount
    rw [Pattern.matchPrefix?, hmount.1, hc]
    exact congrArg (fun suffix => some (suffix, p.capture c Dict.empty)) hmount.2
  have hvars : q.matchVars? "/x" Dict.empty = some (q.capture d Dict.empty) := by
    rw [Pattern.matchVars?, hd]
    rfl
  have hscan : Leaf.scan router.leaves { depth := 0, mounts := [], path := "/7/x" } Dict.empty =
      some (⟨[(0, p)], 0, q, Dict.empty.insert anyMethod .done⟩,
        { depth := 0, mounts := [0], path := "/x" },
        (Dict.empty.merge (p.capture c Dict.empty)).merge (q.capture d Dict.empty)) := by
    simp [Leaf.scan, Leaf.fit?, Leaf.descend, leaves, Route.leavesAll, Route.leaves, Leaf.under,
      router, Place.below, hsuffix, hvars]
  unfold Leaf.Scanned at hscanned
  rw [hscan] at hscanned
  obtain ⟨t, ht, -, -, hserved⟩ := hscanned
  have hhandler : ∀ method : String,
      ((Dict.empty.insert anyMethod (.done : Callback Unit .handler)).get? method).or
        ((Dict.empty.insert anyMethod .done).get? anyMethod) = some .done := by
    intro method
    by_cases hmethod : method = anyMethod <;> simp [Dict.get?_insert, hmethod]
  simp only [hhandler] at hserved
  refine ⟨hserved.1, ?_⟩
  have hfinal : answer.2.context.vars = t.context.vars := hserved.2.vars
  rw [hfinal, ht, Dict.get?_merge, hpage]
  rfl
end Signpost
