import Signpost.Proofs.Dispatch.Run

/-!
# Filters guard routes

Whenever a route decides a request, every filter for its path that stands above it, from the router
of the dispatch down to the router of the route, has been entered and is waiting for what comes
after it: the outermost router first, and in the order of their registration within a router
(`Visit.Run.guarded`). No filter is entered, asked, answered or left twice
(`Visit.Run.nodup_moments`).
-/

namespace Signpost

variable {ν : Type}

/-! ## Events of filters and of decisions -/

inductive Moment where
  | enter
  | descend
  | resume
  | leave
  deriving DecidableEq, Repr

namespace Event

/-- What happened to which filter: the mounts above its router and its position there. -/
def moment? : Event ν → Option (Moment × List Nat × Nat)
  | .enter place i => some (.enter, place.mounts, i)
  | .descend place i => some (.descend, place.mounts, i)
  | .resume place i _ => some (.resume, place.mounts, i)
  | .leave place i _ _ => some (.leave, place.mounts, i)
  | _ => none

/-- The route that decides, if the event is a decision: its handler is called, or it has none for
the method. -/
def decision? : Event ν → Option (Place × Nat)
  | .serve place i => some (place, i)
  | .refuse place i => some (place, i)
  | _ => none

end Event

/-- An element of two lists in sequence lies in the first or in the second. -/
theorem split_of_append_eq {α : Type} {l l' before after : List α} {e : α}
    (h : l ++ l' = before ++ e :: after) :
    (∃ after', l = before ++ e :: after' ∧ after = after' ++ l') ∨
      ∃ before', before = l ++ before' ∧ l' = before' ++ e :: after := by
  rcases List.append_eq_append_iff.mp h with ⟨before', hbefore, hl'⟩ | ⟨tail, hl, htail⟩
  · exact .inr ⟨before', hbefore, hl'⟩
  · rcases List.cons_eq_append_iff.mp htail with ⟨rfl, hl'⟩ | ⟨after', rfl, hafter⟩
    · exact .inr ⟨[], by simpa using hl.symm, hl'⟩
    · exact .inl ⟨after', hl, hafter⟩

theorem Event.decision?_ne {es before after : List (Event ν)} {e : Event ν} {d : Place × Nat}
    (heq : es = before ++ e :: after) (h : ∀ e ∈ es, e.decision? = none) :
    e.decision? ≠ some d := by
  have hmem : e ∈ es := by simp [heq]
  rw [h e hmem]
  exact nofun

/-- Two parts of a run have no filter in common. -/
def Apart (es es' : List (Event ν)) : Prop :=
  ∀ e ∈ es, ∀ e' ∈ es', ∀ m m' mounts k,
    e.moment? = some (m, mounts, k) → e'.moment? ≠ some (m', mounts, k)

/-! ## Nothing happens to a filter twice -/

namespace Visit

/-- The filters, named by the mounts above them and their position, that a run from the stage on of
a router below the mounts `here` may still come to. -/
def Stage.Ahead (here : List Nat) : Stage → List Nat → Nat → Prop
  | .filter i, mounts, k => mounts = here ∧ i ≤ k ∨ ∃ j rest, mounts = here ++ j :: rest
  | .route i, mounts, _ => ∃ j rest, i ≤ j ∧ mounts = here ++ j :: rest

namespace Stage.Ahead

variable {here mounts : List Nat} {i k : Nat}

theorem self (here : List Nat) (i : Nat) : (Stage.filter i).Ahead here here i :=
  .inl ⟨rfl, Nat.le_refl i⟩

theorem filter_of_succ (h : (Stage.filter (i + 1)).Ahead here mounts k) :
    (Stage.filter i).Ahead here mounts k := by
  obtain ⟨rfl, hk⟩ | h := h
  · exact .inl ⟨rfl, by omega⟩
  · exact .inr h

theorem filter_of_route (h : (Stage.route i).Ahead here mounts k) (i' : Nat) :
    (Stage.filter i').Ahead here mounts k := by
  obtain ⟨j, rest, -, rfl⟩ := h
  exact .inr ⟨j, rest, rfl⟩

theorem route_of_succ (h : (Stage.route (i + 1)).Ahead here mounts k) :
    (Stage.route i).Ahead here mounts k := by
  obtain ⟨j, rest, hj, rfl⟩ := h
  exact ⟨j, rest, by omega, rfl⟩

/-- Every filter below a mount has the position of the mount in its name. -/
theorem exists_of_below {i' : Nat} (h : (Stage.filter i').Ahead (here ++ [i]) mounts k) :
    ∃ rest, mounts = here ++ i :: rest := by
  obtain ⟨rfl, -⟩ | ⟨j, rest, rfl⟩ := h
  · exact ⟨[], rfl⟩
  · exact ⟨j :: rest, by simp⟩

theorem not_below {i' k' : Nat} (h : (Stage.route (i + 1)).Ahead here mounts k) :
    ¬(Stage.filter i').Ahead (here ++ [i]) mounts k' := by
  intro hbelow
  obtain ⟨j, rest, hj, rfl⟩ := h
  obtain ⟨rest', heq⟩ := hbelow.exists_of_below
  have := (List.cons.inj (List.append_cancel_left heq)).1
  omega

end Stage.Ahead

namespace Run

variable {v : Visit ν} {stage : Stage} {es : List (Event ν)} {a : Except Failure Bool}

/-- A run touches only filters that are ahead of it. -/
theorem ahead (h : v.Run stage es a) : ∀ e ∈ es, ∀ m mounts k,
    e.moment? = some (m, mounts, k) → stage.Ahead v.place.mounts mounts k := by
  induction h with
  | enough _ _ ih => exact fun e he m mounts k hm => (ih e he m mounts k hm).filter_of_route _
  | skip _ _ _ ih => exact fun e he m mounts k hm => (ih e he m mounts k hm).filter_of_succ
  | stop => simp [Event.moment?, Stage.Ahead]
  | pass _ _ _ _ _ ih =>
    intro e he m mounts k hm
    simp only [List.mem_cons, List.mem_append, List.not_mem_nil, or_false] at he
    obtain rfl | rfl | he | rfl | rfl := he
    · cases hm
      exact Stage.Ahead.self _ _
    · cases hm
      exact Stage.Ahead.self _ _
    · exact (ih e he m mounts k hm).filter_of_succ
    · cases hm
      exact Stage.Ahead.self _ _
    · cases hm
      exact Stage.Ahead.self _ _
  | exhausted | serve | refuse => simp [Event.moment?]
  | overlook _ _ _ ih | bypass _ _ _ ih =>
    exact fun e he m mounts k hm => (ih e he m mounts k hm).route_of_succ
  | back _ _ _ _ ihbelow ih =>
    intro e he m mounts k hm
    obtain he | he := List.mem_append.mp he
    · obtain ⟨rest, rfl⟩ := (ihbelow e he m mounts k hm).exists_of_below
      exact ⟨_, rest, Nat.le_refl _, rfl⟩
    · exact (ih e he m mounts k hm).route_of_succ
  | decide _ _ _ _ ihbelow =>
    intro e he m mounts k hm
    obtain ⟨rest, rfl⟩ := (ihbelow e he m mounts k hm).exists_of_below
    exact ⟨_, rest, Nat.le_refl _, rfl⟩

/-- A filter that is passed does not come up again below. -/
theorem moment?_ne (h : v.Run (.filter (i + 1)) es a) (m : Moment) :
    (m, v.place.mounts, i) ∉ es.filterMap Event.moment? := by
  intro hmem
  obtain ⟨e, he, hm⟩ := List.mem_filterMap.mp hmem
  obtain ⟨-, hi⟩ | ⟨j, rest, heq⟩ := h.ahead e he m _ _ hm
  · omega
  · simp at heq

/-- What happens below a mount and what happens after it have no filter in common. -/
theorem apart {i j : Nat} {suffix : String} {router : Router ν} {es' : List (Event ν)}
    {a' : Except Failure Bool}
    (hbelow : Run ⟨v.place.below i suffix, router⟩ (.filter j) es a)
    (h : v.Run (.route (i + 1)) es' a') : Apart es es' :=
  fun e he e' he' m m' mounts k hm hm' =>
    (h.ahead e' he' m' mounts k hm').not_below (hbelow.ahead e he m mounts k hm)

theorem nodup_moments (h : v.Run stage es a) : (es.filterMap Event.moment?).Nodup := by
  induction h with
  | enough _ _ ih | skip _ _ _ ih | overlook _ _ _ ih | bypass _ _ _ ih => exact ih
  | decide _ _ _ _ ih => exact ih
  | stop => simp [Event.moment?]
  | exhausted | serve | refuse => exact List.nodup_nil
  | pass _ _ _ _ h ih =>
    have hne := h.moment?_ne
    simp only [List.filterMap_cons, List.filterMap_append, List.filterMap_nil, Event.moment?]
    simp [List.nodup_append, ih, hne]
    grind
  | back _ _ hbelow h ihbelow ih =>
    rw [List.filterMap_append, List.nodup_append]
    refine ⟨ihbelow, ih, ?_⟩
    rintro ⟨m, mounts, k⟩ hmem _ hmem' rfl
    obtain ⟨e, he, hm⟩ := List.mem_filterMap.mp hmem
    obtain ⟨e', he', hm'⟩ := List.mem_filterMap.mp hmem'
    exact hbelow.apart h e he e' he' m m mounts k hm hm'

end Run

/-! ## Every filter above a decision waits for it -/

/-- `v.Descent visits w`: the visits lead from `v` to `w` through one mount after the other. -/
inductive Descent : Visit ν → List (Visit ν) → Visit ν → Prop
  | here (v : Visit ν) : Descent v [v] v
  | down {v w u : Visit ν} {visits : List (Visit ν)} (hmount : v.Mounts w)
      (h : Descent w visits u) : Descent v (v :: visits) u

/-- The filters for the path from the position `i` on, in order. -/
def guardsFrom (v : Visit ν) (i : Nat) : List (Place × Nat) :=
  ((v.router.filters.zipIdx.drop i).filter (·.1.applies v.place.path)).map (v.place, ·.2)

def guards (v : Visit ν) : List (Place × Nat) := v.guardsFrom 0

/-- The filters for the path that are left from the stage on. -/
def Stage.guards (v : Visit ν) : Stage → List (Place × Nat)
  | .filter i => v.guardsFrom i
  | .route _ => []

section GuardsFrom

variable {v : Visit ν} {i : Nat} {g : Guard ν}

theorem guardsFrom_of_length_le (hi : v.router.filters.length ≤ i) : v.guardsFrom i = [] := by
  unfold guardsFrom
  rw [List.drop_eq_nil_of_le (by simpa using hi)]
  rfl

theorem drop_zipIdx (hg : v.router.filters[i]? = some g) :
    v.router.filters.zipIdx.drop i = (g, i) :: v.router.filters.zipIdx.drop (i + 1) := by
  obtain ⟨hi, rfl⟩ := List.getElem?_eq_some_iff.mp hg
  rw [List.drop_eq_getElem_cons (by simpa using hi)]
  simp

theorem guardsFrom_of_skip (hg : v.router.filters[i]? = some g)
    (hfit : g.applies v.place.path = false) : v.guardsFrom i = v.guardsFrom (i + 1) := by
  unfold guardsFrom
  rw [drop_zipIdx hg, List.filter_cons_of_neg (by simp [hfit])]

theorem guardsFrom_of_pass (hg : v.router.filters[i]? = some g)
    (hfit : g.applies v.place.path = true) :
    v.guardsFrom i = (v.place, i) :: v.guardsFrom (i + 1) := by
  unfold guardsFrom
  rw [drop_zipIdx hg, List.filter_cons_of_pos (by simpa using hfit)]
  rfl

end GuardsFrom

end Visit

/-- At a time before which `before` happened, the filters have been entered one after the other and
wait for what comes after them. -/
structure Waiting (guards : List (Place × Nat)) (before : List (Event ν)) : Prop where
  /-- Each filter was entered and asked before the next one was entered. -/
  entered : (guards.flatMap fun g => [Event.enter g.1 g.2, .descend g.1 g.2]).Sublist before
  /-- None has an answer. -/
  unanswered : ∀ g ∈ guards, ∀ answer, Event.resume g.1 g.2 answer ∉ before

namespace Waiting

variable {guards : List (Place × Nat)} {before es : List (Event ν)}

theorem nil (before : List (Event ν)) : Waiting [] before := ⟨List.nil_sublist _, by simp⟩

theorem enter_mem (h : Waiting guards before) {g : Place × Nat} (hg : g ∈ guards) :
    Event.enter g.1 g.2 ∈ before :=
  h.entered.subset (List.mem_flatMap.mpr ⟨g, hg, List.mem_cons_self⟩)

/-- What happened earlier to other filters does not matter. -/
theorem append_left (h : Waiting guards before)
    (hes : ∀ g ∈ guards, ∀ answer, Event.resume g.1 g.2 answer ∉ es) :
    Waiting guards (es ++ before) where
  entered := h.entered.trans (List.sublist_append_right es before)
  unanswered g hg answer hmem :=
    (List.mem_append.mp hmem).elim (hes g hg answer) (h.unanswered g hg answer)

/-- A filter that passes waits for all that comes after it. -/
theorem cons {place : Place} {i : Nat} (h : Waiting guards before)
    (hne : ∀ answer, Event.resume place i answer ∉ before) :
    Waiting ((place, i) :: guards) (.enter place i :: .descend place i :: before) where
  entered := (h.entered.cons_cons _).cons_cons _
  unanswered g hg answer hmem := by
    simp only [List.mem_cons, reduceCtorEq, false_or] at hg hmem
    obtain rfl | hg := hg
    · exact hne answer hmem
    · exact h.unanswered g hg answer hmem

end Waiting

/-- Where a decision was made, in a run that started at the visit `v`: on the way down to a router
whose page at the position `j` matches, with all filters above it waiting. -/
def Visit.Guarded (v : Visit ν) (stage : Visit.Stage) (place : Place) (j : Nat)
    (before : List (Event ν)) : Prop :=
  ∃ visits w, v.Descent (v :: visits) w ∧ w.place = place ∧
    (∃ pattern handlers, w.router.routes[j]? = some (.page pattern handlers) ∧
      pattern.isMatch place.path = true) ∧
    Waiting (stage.guards v ++ visits.flatMap Visit.guards) before

namespace Visit.Run

variable {v : Visit ν} {stage : Stage} {es : List (Event ν)} {a : Except Failure Bool}

theorem guarded (h : v.Run stage es a) : ∀ before e after place j, es = before ++ e :: after →
    e.decision? = some (place, j) → v.Guarded stage place j before := by
  induction h with
  | enough hi h ih =>
    intro before e after place j hes he
    obtain ⟨visits, w, hw⟩ := ih before e after place j hes he
    refine ⟨visits, w, ?_⟩
    simpa [Stage.guards, guardsFrom_of_length_le hi] using hw
  | skip hg hfit h ih =>
    intro before e after place j hes he
    obtain ⟨visits, w, hw⟩ := ih before e after place j hes he
    refine ⟨visits, w, ?_⟩
    simpa [Stage.guards, guardsFrom_of_skip hg hfit] using hw
  | stop =>
    intro before e after place j hes he
    exact absurd he (Event.decision?_ne hes (by simp [Event.decision?]))
  | @pass v i g es a result claimed hg hfit h ih =>
    intro before e after place j hes he
    -- neither the events before the run nor those after it are decisions
    rcases split_of_append_eq (l := [Event.enter v.place i, .descend v.place i]) hes with
      ⟨after', heq, -⟩ | ⟨before', rfl, heq⟩
    · exact absurd he (Event.decision?_ne heq (by simp [Event.decision?]))
    rcases split_of_append_eq heq with ⟨after', hrun, -⟩ | ⟨before'', -, hlast⟩
    · obtain ⟨visits, w, hdescent, hw, hpage, hwaiting⟩ := ih before' e after' place j hrun he
      refine ⟨visits, w, hdescent, hw, hpage, ?_⟩
      rw [Stage.guards, guardsFrom_of_pass hg hfit, List.cons_append]
      refine hwaiting.cons fun answer hmem => h.moment?_ne .resume ?_
      refine List.mem_filterMap.mpr ⟨.resume v.place i answer, ?_, rfl⟩
      rw [hrun]
      exact List.mem_append_left _ hmem
    · exact absurd he (Event.decision?_ne hlast (by simp [Event.decision?]))
  | exhausted =>
    intro before e after place j hes
    simp at hes
  | overlook hroute hfit h ih | bypass _ _ _ ih => exact ih
  | serve result hroute hfit =>
    intro before e after place j hes he
    cases before with
    | nil =>
      cases hes
      cases he
      exact ⟨[], _, .here _, rfl, ⟨_, _, hroute, hfit⟩, .nil []⟩
    | cons _ before =>
      exact absurd he (Event.decision?_ne (List.cons.inj hes).2 (by simp [Event.decision?]))
  | refuse hroute hfit =>
    intro before e after place j hes he
    cases before with
    | nil =>
      cases hes
      cases he
      exact ⟨[], _, .here _, rfl, ⟨_, _, hroute, hfit⟩, .nil []⟩
    | cons _ before => exact absurd he (Event.decision?_ne (List.cons.inj hes).2 (by simp))
  | back hroute hmount hbelow h ihbelow ih =>
    intro before e after place j hes he
    rcases split_of_append_eq hes with ⟨after', heq, -⟩ | ⟨before', rfl, heq⟩
    · obtain ⟨visits, w, hdescent, hw, hpage, hwaiting⟩ := ihbelow before e after' place j heq he
      exact ⟨_ :: visits, w, .down (.intro hroute hmount) hdescent, hw, hpage, hwaiting⟩
    · obtain ⟨visits, w, hdescent, hw, hpage, hwaiting⟩ := ih before' e after place j heq he
      refine ⟨visits, w, hdescent, hw, hpage, hwaiting.append_left fun g hg answer hmem => ?_⟩
      -- the mount that was tried in vain is another one than that of the filter
      have henter : Event.enter g.1 g.2 ∈ before' ++ e :: after :=
        List.mem_append_left _ (hwaiting.enter_mem hg)
      rw [← heq] at henter
      exact hbelow.apart h _ hmem _ henter _ _ _ _ rfl rfl
  | decide hroute hmount ha hbelow ihbelow =>
    intro before e after place j hes he
    obtain ⟨visits, w, hdescent, hw, hpage, hwaiting⟩ := ihbelow before e after place j hes he
    exact ⟨_ :: visits, w, .down (.intro hroute hmount) hdescent, hw, hpage, hwaiting⟩

theorem applies_of_enter (h : v.Run stage es a) : ∀ place k, Event.enter place k ∈ es →
    ∃ visits w g, v.Descent visits w ∧ w.place = place ∧ w.router.filters[k]? = some g ∧
      g.applies place.path = true := by
  induction h with
  | enough _ _ ih | skip _ _ _ ih | overlook _ _ _ ih | bypass _ _ _ ih => exact ih
  | stop result claimed hg hfit =>
    intro place k hmem
    simp only [List.mem_cons, Event.enter.injEq, reduceCtorEq, List.not_mem_nil, or_false] at hmem
    obtain ⟨rfl, rfl⟩ := hmem
    exact ⟨_, _, _, .here _, rfl, hg, hfit⟩
  | pass result claimed hg hfit h ih =>
    intro place k hmem
    simp only [List.mem_cons, List.mem_append, Event.enter.injEq, reduceCtorEq, List.not_mem_nil,
      or_false, false_or] at hmem
    obtain ⟨rfl, rfl⟩ | hmem := hmem
    · exact ⟨_, _, _, .here _, rfl, hg, hfit⟩
    · exact ih place k hmem
  | exhausted | serve | refuse => simp
  | back hroute hmount hbelow h ihbelow ih =>
    intro place k hmem
    obtain hmem | hmem := List.mem_append.mp hmem
    · obtain ⟨visits, w, g, hdescent, hg⟩ := ihbelow place k hmem
      exact ⟨_, w, g, .down (.intro hroute hmount) hdescent, hg⟩
    · exact ih place k hmem
  | decide hroute hmount ha hbelow ihbelow =>
    intro place k hmem
    obtain ⟨visits, w, g, hdescent, hg⟩ := ihbelow place k hmem
    exact ⟨_, w, g, .down (.intro hroute hmount) hdescent, hg⟩

end Visit.Run

/-! ## Dispatches -/

/-- Let `es` be the events of a dispatch, the pages that it includes left out. Whenever a route
decides, all filters for the path on the way down to it wait, in order; nothing happens to a filter
twice; only filters for the path are entered. When a filter asks for what comes after it, the rest
of its callback runs as if every further question were answered by `multipleNext` on the spot. -/
theorem Router.dispatch_guarded (site : Site ν) (router : Router ν) (path : String) (s : State ν) :
    let host := site.host s.context
    let root : Visit ν := ⟨{ depth := s.context.depth, mounts := [], path }, router⟩
    ∃ es, (router.dispatch host path s).2.world.eventsAt s.context.depth =
        s.world.eventsAt s.context.depth ++ es ∧
      (∀ before e after place j, es = before ++ e :: after → e.decision? = some (place, j) →
        ∃ visits w, root.Descent visits w ∧ w.place = place ∧
          (∃ pattern handlers, w.router.routes[j]? = some (.page pattern handlers) ∧
            pattern.isMatch place.path = true) ∧
          Waiting (visits.flatMap Visit.guards) before) ∧
      (es.filterMap Event.moment?).Nodup ∧
      (∀ place k, Event.enter place k ∈ es →
        ∃ visits w g, root.Descent visits w ∧ w.place = place ∧ w.router.filters[k]? = some g ∧
          g.applies place.path = true) ∧
      ∀ (next next' : State ν → Except Failure Bool × State ν)
        (k : Except Failure Bool → Callback ν .filter) (p : Passage) (t : State ν),
        (Callback.next k).run host next p t =
          if p.nextCalled then (k (.error .multipleNext)).exhausted.run host next' p t
          else (k (next t).1).exhausted.run host next' (p.answered (next t).1) (next t).2 := by
  intro host root
  obtain ⟨es, hrun, hes⟩ := router.eventsAt_dispatch site path s
  refine ⟨es, hes, ?_, hrun.nodup_moments, hrun.applies_of_enter, ?_⟩
  · intro before e after place j heq he
    obtain ⟨visits, w, hw⟩ := hrun.guarded before e after place j heq he
    exact ⟨_, w, hw⟩
  · intro next next' k p t
    rw [Callback.run]
    split
    · rename_i hp
      exact Callback.run_exhausted host next next' _ p t hp
    · exact Callback.run_exhausted host next next' _ _ _ rfl

end Signpost
