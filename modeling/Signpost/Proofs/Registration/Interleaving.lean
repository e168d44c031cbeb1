import Signpost.Proofs.Dispatch.Including
import Mathlib.Logic.Function.Basic

/-!
# Registrations and requests at the same time

Any number of registrations and requests make their steps at the same time. A registration takes
the lock, loads the published router, edits its copy, stores the copy and releases the lock; a
request loads the published router, lock or no lock, and is dispatched on what it loaded. What comes
of a schedule of these steps is said by `Traffic.Moves`, one step at a time; steps that nothing
comes between make up `World.register` and `App.serve`.

No registration is lost (`Traffic.nothing_lost`). At every moment the published router is the first
one with the edits of the registrations that have stored applied in the order in which they took the
lock; a request is dispatched on the router of one such moment, which has the edits of all
registrations that had returned by then.
-/

namespace Signpost

open Http (Request Response)

variable {ν α : Type}

/-! ## Steps -/

/-- How far a registration has come. -/
inductive Registering (ν α : Type) where
  | waiting
  | locked
  | copied (router : Router ν)
  | edited (router : Router ν) (result : α)
  | stored (result : α)
  | returned (result : α)
  /-- It broke off while it edited its copy, which nobody will see. -/
  | abandoned

namespace Registering

/-- Whether it has had the lock. -/
def entered : Registering ν α → Bool
  | waiting => false
  | _ => true

/-- Whether it has the lock. -/
def inside : Registering ν α → Bool
  | locked | copied _ | edited _ _ | stored _ => true
  | waiting | returned _ | abandoned => false

def hasStored : Registering ν α → Bool
  | stored _ | returned _ => true
  | _ => false

end Registering

/-- How far a request has come. -/
inductive Requesting (ν : Type) where
  | waiting
  | loaded (router : Router ν)
  | answered (router : Router ν) (response : Response)

/-- The router that a request has loaded. -/
def Requesting.router? : Requesting ν → Option (Router ν)
  | waiting => none
  | loaded router | answered router _ => some router

/-- What the registrations and the requests are, by their numbers. A registration edits a router
and has a result for its caller. -/
structure Plan (ν α : Type) where
  app : App ν
  edit : Nat → Router ν → Router ν × α
  request : Nat → Request

/-- The router after the edits of registrations, in order. -/
def Plan.editAll (p : Plan ν α) (root : Router ν) (calls : List Nat) : Router ν :=
  calls.foldl (fun router c => (p.edit c router).1) root

theorem Plan.editAll_concat (p : Plan ν α) (root : Router ν) (calls : List Nat) (c : Nat) :
    p.editAll root (calls ++ [c]) = (p.edit c (p.editAll root calls)).1 := by
  simp [editAll]

/-- Where the registrations and the requests of an application stand. -/
structure Traffic (ν α : Type) where
  world : World ν
  /-- The registration that has the lock. -/
  holder : Option Nat := none
  calls : Nat → Registering ν α := fun _ => .waiting
  requests : Nat → Requesting ν := fun _ => .waiting

namespace Traffic

/-- A step of a registration or of a request. -/
inductive Action where
  | lock (call : Nat)
  | load (call : Nat)
  | edit (call : Nat)
  | store (call : Nat)
  | unlock (call : Nat)
  | abandon (call : Nat)
  | fetch (request : Nat)
  | dispatch (request : Nat)
  deriving DecidableEq, Repr

def setCall (t : Traffic ν α) (c : Nat) (phase : Registering ν α) : Traffic ν α :=
  { t with calls := Function.update t.calls c phase }

def setRequest (t : Traffic ν α) (r : Nat) (phase : Requesting ν) : Traffic ν α :=
  { t with requests := Function.update t.requests r phase }

/-- What an action does, where it can be done. Registrations that callbacks make while a request is
dispatched are registrations like all others, with numbers of their own, so a dispatch publishes
nothing. -/
inductive Moves (p : Plan ν α) (t : Traffic ν α) : Action → Traffic ν α → Prop
  | lock {c : Nat} (hc : t.calls c = .waiting) (hfree : t.holder = none) :
      Moves p t (.lock c) { t.setCall c .locked with holder := some c }
  | load {c : Nat} (hc : t.calls c = .locked) :
      Moves p t (.load c) (t.setCall c (.copied t.world.published))
  | edit {c : Nat} {router : Router ν} (hc : t.calls c = .copied router) :
      Moves p t (.edit c) (t.setCall c (.edited (p.edit c router).1 (p.edit c router).2))
  | store {c : Nat} {router : Router ν} {result : α} (hc : t.calls c = .edited router result) :
      Moves p t (.store c)
        { t.setCall c (.stored result) with world := { t.world with published := router } }
  | unlock {c : Nat} {result : α} (hc : t.calls c = .stored result) :
      Moves p t (.unlock c) { t.setCall c (.returned result) with holder := none }
  | abandon {c : Nat} {router : Router ν} (hc : t.calls c = .copied router) :
      Moves p t (.abandon c) { t.setCall c .abandoned with holder := none }
  | fetch {r : Nat} (hr : t.requests r = .waiting) :
      Moves p t (.fetch r) (t.setRequest r (.loaded t.world.published))
  | dispatch {r : Nat} {router : Router ν} (hr : t.requests r = .loaded router) :
      Moves p t (.dispatch r)
        { t.setRequest r (.answered router (p.app.serveFrom router t.world (p.request r)).1) with
          world :=
            { (p.app.serveFrom router t.world (p.request r)).2 with
              published := t.world.published } }

/-- A schedule leads from a world in which nothing has begun to the traffic. -/
inductive Reaches (p : Plan ν α) (w : World ν) : List Action → Traffic ν α → Prop
  | start : Reaches p w [] { world := w }
  | step {as : List Action} {a : Action} {t u : Traffic ν α} (h : Reaches p w as t)
      (hmove : t.Moves p a u) : Reaches p w (as ++ [a]) u

/-! ## Schedules -/

/-- The registrations that took the lock, in order. -/
def locks (as : List Action) : List Nat :=
  as.filterMap fun
    | .lock c => some c
    | _ => none

/-- The registrations that have stored, in the order in which they took the lock. -/
def applied (as : List Action) : List Nat := (locks as).filter fun c => .store c ∈ as

theorem mem_locks {as : List Action} {c : Nat} : c ∈ locks as ↔ .lock c ∈ as := by
  unfold locks
  rw [List.mem_filterMap]
  constructor
  · rintro ⟨a, ha, hc⟩
    cases a <;> simp at hc
    rwa [← hc]
  · exact fun h => ⟨_, h, rfl⟩

theorem locks_concat (as : List Action) (a : Action) : locks (as ++ [a]) = locks as ++ locks [a] :=
  List.filterMap_append

theorem locks_lock (as : List Action) (c : Nat) : locks (as ++ [.lock c]) = locks as ++ [c] :=
  locks_concat as _

/-- What neither takes the lock nor stores does not count. -/
theorem applied_concat {as : List Action} {a : Action} (hlock : locks [a] = [])
    (hstore : ∀ c, a ≠ .store c) : applied (as ++ [a]) = applied as := by
  unfold applied
  rw [locks_concat, hlock, List.append_nil]
  refine List.filter_congr fun c _ => ?_
  simp [(hstore c).symm]

theorem applied_lock {as : List Action} {c : Nat} (hc : .store c ∉ as) :
    applied (as ++ [.lock c]) = applied as := by
  unfold applied
  rw [locks_lock, List.filter_append]
  simp [hc]

/-- The registration that took the lock last is the last to be applied. -/
theorem applied_store {as : List Action} {c : Nat} (hlast : (locks as).getLast? = some c)
    (hnodup : (locks as).Nodup) (hc : .store c ∉ as) :
    applied (as ++ [.store c]) = applied as ++ [c] := by
  obtain ⟨earlier, hearlier⟩ := List.getLast?_eq_some_iff.mp hlast
  have hnew : ∀ d ∈ earlier, d ≠ c := by
    rw [hearlier] at hnodup
    exact fun d hd => (List.nodup_append.mp hnodup).2.2 d hd c (by simp)
  have hsame : (earlier.filter fun d => .store d ∈ as ++ [.store c]) =
      earlier.filter fun d => .store d ∈ as :=
    List.filter_congr fun d hd => by simp [hnew d hd]
  unfold applied
  rw [locks_concat, hearlier]
  simpa [locks, hc] using hsame

/-! ## The lock -/

/-- The registration that makes the action. -/
def Action.call? : Action → Option Nat
  | .lock c | .load c | .edit c | .store c | .unlock c | .abandon c => some c
  | .fetch _ | .dispatch _ => none

section Move

variable {p : Plan ν α} {w : World ν} {as : List Action} {a : Action} {t u : Traffic ν α}

@[simp] theorem setCall_calls_self (t : Traffic ν α) (c : Nat) (phase : Registering ν α) :
    (t.setCall c phase).calls c = phase := Function.update_self ..

theorem setCall_calls_of_ne (t : Traffic ν α) {c d : Nat} (phase : Registering ν α) (hd : d ≠ c) :
    (t.setCall c phase).calls d = t.calls d := Function.update_of_ne hd ..

theorem Moves.calls_of_ne (h : t.Moves p a u) {c : Nat} (hc : a.call? ≠ some c) :
    u.calls c = t.calls c := by
  cases h
  case fetch | dispatch => rfl
  all_goals exact setCall_calls_of_ne t _ fun heq => hc (by rw [heq]; rfl)

/-- The schedule tells how far a registration has come. -/
structure Tracks (as : List Action) (c : Nat) (phase : Registering ν α) : Prop where
  lock : .lock c ∈ as ↔ phase.entered = true
  store : .store c ∈ as ↔ phase.hasStored = true
  unlock : .unlock c ∈ as → phase.hasStored = true

theorem Tracks.concat {c : Nat} {phase : Registering ν α} (h : Tracks as c phase)
    (ha : a.call? ≠ some c) : Tracks (as ++ [a]) c phase := by
  have hne : ∀ b : Action, b.call? = some c → b ≠ a := by
    rintro b hb rfl
    exact ha hb
  constructor
  · simp [hne (.lock c) rfl, h.lock]
  · simp [hne (.store c) rfl, h.store]
  · simpa [hne (.unlock c) rfl] using h.unlock

theorem Tracks.move {c : Nat} (h : Tracks as c (t.calls c)) (hmove : t.Moves p a u) :
    Tracks (as ++ [a]) c (u.calls c) := by
  by_cases ha : a.call? = some c
  · obtain ⟨hlock, hstore, hunlock⟩ := h
    cases hmove <;> cases ha <;> constructor <;>
      simp_all [Registering.entered, Registering.hasStored]
  · rw [hmove.calls_of_ne ha]
    exact h.concat ha

/-- One registration at a time has the lock, and it is the one that took it last. -/
structure Exclusive (as : List Action) (t : Traffic ν α) : Prop where
  holder_iff : ∀ c, t.holder = some c ↔ (t.calls c).inside = true
  latest : ∀ c, t.holder = some c → (locks as).getLast? = some c
  nodup : (locks as).Nodup

/-- What a move does with the lock. -/
inductive Handles (a : Action) (t u : Traffic ν α) : Prop
  | takes (c : Nat) (ha : a = .lock c) (hwaiting : t.calls c = .waiting)
      (hfree : t.holder = none) (hheld : u.holder = some c) (hafter : (u.calls c).inside = true)
      (hothers : ∀ d, d ≠ c → (u.calls d).inside = (t.calls d).inside)
  | keeps (hlocks : locks [a] = []) (hheld : u.holder = t.holder)
      (hcalls : ∀ d, (u.calls d).inside = (t.calls d).inside)
  | releases (c : Nat) (hlocks : locks [a] = []) (hfree : u.holder = none)
      (hbefore : (t.calls c).inside = true) (hafter : (u.calls c).inside = false)
      (hothers : ∀ d, d ≠ c → (u.calls d).inside = (t.calls d).inside)

theorem Moves.handles (h : t.Moves p a u) : Handles a t u := by
  have hothers (c : Nat) (phase : Registering ν α) (d : Nat) (hd : d ≠ c) :
      ((t.setCall c phase).calls d).inside = (t.calls d).inside := by
    rw [setCall_calls_of_ne t phase hd]
  have hcalls {c : Nat} {phase : Registering ν α} (hc : phase.inside = (t.calls c).inside)
      (d : Nat) : ((t.setCall c phase).calls d).inside = (t.calls d).inside := by
    by_cases hd : d = c
    · rw [hd, setCall_calls_self, hc]
    · exact hothers c phase d hd
  cases h with
  | lock hc hfree => exact .takes _ rfl hc hfree rfl (by simp [Registering.inside]) (hothers _ _)
  | load hc | edit hc | store hc => exact .keeps rfl rfl (hcalls (by rw [hc]; rfl))
  | fetch | dispatch => exact .keeps rfl rfl fun _ => rfl
  | unlock hc | abandon hc =>
    exact .releases _ rfl rfl (by rw [hc]; rfl) (by simp [Registering.inside]) (hothers _ _)

theorem Exclusive.move (h : Exclusive as t) (htracks : ∀ c, Tracks as c (t.calls c))
    (hmove : t.Moves p a u) : Exclusive (as ++ [a]) u := by
  obtain ⟨hholder, hlatest, hnodup⟩ := h
  have hhandles := hmove.handles
  cases hhandles with
  | takes c ha hwaiting hfree hheld hafter hothers =>
    subst ha
    have hnew : c ∉ locks as := by
      rw [mem_locks, (htracks c).lock, hwaiting]
      simp [Registering.entered]
    refine ⟨fun d => ?_, ?_, ?_⟩
    · by_cases hd : d = c
      · simp [hd, hheld, hafter]
      · rw [hothers d hd, ← hholder d, hheld, hfree]
        simp [Ne.symm hd]
    · rw [hheld, locks_lock]
      rintro _ ⟨⟩
      simp
    · rw [locks_lock, List.nodup_append]
      refine ⟨hnodup, by simp, ?_⟩
      rintro d hd _ hc rfl
      exact hnew (List.mem_singleton.mp hc ▸ hd)
  | keeps hlocks hheld hcalls =>
    rw [← hheld] at hholder hlatest
    refine ⟨fun d => by rw [hcalls]; exact hholder d, ?_, ?_⟩ <;>
      rwa [locks_concat, hlocks, List.append_nil]
  | releases c hlocks hfree hbefore hafter hothers =>
    refine ⟨fun d => ?_, ?_, by rwa [locks_concat, hlocks, List.append_nil]⟩
    · by_cases hd : d = c
      · simp [hd, hfree, hafter]
      · have hd' := hholder d
        rw [(hholder c).mpr hbefore] at hd'
        rw [hothers d hd, ← hd', hfree]
        simp [Ne.symm hd]
    · simp [hfree]

/-! ## What is published -/

/-- What a registration works on came of the router that is published now. -/
def Current (p : Plan ν α) (published : Router ν) (c : Nat) : Registering ν α → Prop
  | .copied router => router = published
  | .edited router _ => router = (p.edit c published).1
  | _ => True

theorem current_of_outside {published : Router ν} {c : Nat} {phase : Registering ν α}
    (h : phase.inside = false) : Current p published c phase := by
  cases phase <;> simp_all [Registering.inside, Current]

/-- The published router is the first one after all edits that are stored, and no copy is older. -/
structure Published (p : Plan ν α) (w : World ν) (as : List Action) (t : Traffic ν α) : Prop where
  router : t.world.published = p.editAll w.published (applied as)
  current : ∀ c, Current p t.world.published c (t.calls c)

theorem Published.move (h : Published p w as t) (htracks : ∀ c, Tracks as c (t.calls c))
    (hlock : Exclusive as t) (hmove : t.Moves p a u) : Published p w (as ++ [a]) u := by
  obtain ⟨hrouter, hcurrent⟩ := h
  have hcalls {c : Nat} {phase : Registering ν α} (hc : Current p t.world.published c phase)
      (d : Nat) : Current p t.world.published d ((t.setCall c phase).calls d) := by
    by_cases hd : d = c
    · subst hd
      rwa [setCall_calls_self]
    · rw [setCall_calls_of_ne t phase hd]
      exact hcurrent d
  have hsame (hlocks : locks [a] = []) (hstore : ∀ c, a ≠ .store c) :
      t.world.published = p.editAll w.published (applied (as ++ [a])) := by
    rwa [applied_concat hlocks hstore]
  cases hmove with
  | @lock c hc hfree =>
    have hstore : .store c ∉ as := by simp [(htracks c).store, hc, Registering.hasStored]
    exact ⟨by rwa [applied_lock hstore], hcalls trivial⟩
  | load hc => exact ⟨hsame rfl (by simp), hcalls rfl⟩
  | @edit c router hc =>
    have hcopy : router = t.world.published := by simpa [hc, Current] using hcurrent c
    exact ⟨hsame rfl (by simp), hcalls (by rw [hcopy]; rfl)⟩
  | @store c router result hc =>
    have hcopy : router = (p.edit c t.world.published).1 := by
      simpa [hc, Current] using hcurrent c
    have hheld : t.holder = some c := (hlock.holder_iff c).mpr (by rw [hc]; rfl)
    have hstore : .store c ∉ as := by simp [(htracks c).store, hc, Registering.hasStored]
    constructor
    · rw [applied_store (hlock.latest c hheld) hlock.nodup hstore, Plan.editAll_concat, ← hrouter]
      exact hcopy
    · -- no other registration has a copy of what was published until now
      intro d
      by_cases hd : d = c
      · simp [hd, Current]
      · have hout : (t.calls d).inside ≠ true :=
          (hlock.holder_iff d).not.mp (by simp [hheld, Ne.symm hd])
        rw [← setCall_calls_of_ne t (.stored result) hd] at hout
        exact current_of_outside (by simpa using hout)
  | unlock hc | abandon hc => exact ⟨hsame rfl (by simp), hcalls trivial⟩
  | fetch hr | dispatch hr => exact ⟨hsame rfl (by simp), hcurrent⟩

/-- What a schedule that led to the traffic tells of it. -/
structure Told (p : Plan ν α) (w : World ν) (as : List Action) (t : Traffic ν α) : Prop where
  tracks : ∀ c, Tracks as c (t.calls c)
  exclusive : Exclusive as t
  published : Published p w as t

theorem Told.mem_applied (h : Told p w as t) {c : Nat} : c ∈ applied as ↔ .store c ∈ as := by
  have hlock : (t.calls c).hasStored = true → (t.calls c).entered = true := by
    cases t.calls c <;> simp [Registering.hasStored, Registering.entered]
  unfold applied
  rw [List.mem_filter, mem_locks, (h.tracks c).lock, decide_eq_true_iff, (h.tracks c).store]
  exact and_iff_right_of_imp hlock

theorem Reaches.told (h : Reaches p w as t) : Told p w as t := by
  induction h with
  | start =>
    refine ⟨fun c => ?_, ⟨?_, ?_, List.nodup_nil⟩, rfl, fun _ => trivial⟩
    · constructor <;> simp [Registering.entered, Registering.hasStored]
    · simp [Registering.inside]
    · simp
  | step _ hmove ih =>
    obtain ⟨htracks, hlock, hpublished⟩ := ih
    exact ⟨fun c => (htracks c).move hmove, hlock.move htracks hmove,
      hpublished.move htracks hlock hmove⟩

/-! ## Requests -/

/-- What a move is to a request. -/
theorem Moves.request_cases (h : t.Moves p a u) (r : Nat) :
    u.requests r = t.requests r ∨
      (a = .fetch r ∧ t.requests r = .waiting ∧ u.requests r = .loaded t.world.published) ∨
      ∃ router, a = .dispatch r ∧ t.requests r = .loaded router ∧
        u.requests r = .answered router (p.app.serveFrom router t.world (p.request r)).1 := by
  have hother {r' : Nat} {phase : Requesting ν} (hr : r ≠ r') :
      (t.setRequest r' phase).requests r = t.requests r := Function.update_of_ne hr ..
  have hself {phase : Requesting ν} : (t.setRequest r phase).requests r = phase :=
    Function.update_self ..
  cases h with
  | lock | load | edit | store | unlock | abandon => exact .inl rfl
  | @fetch r' hr' =>
    by_cases hr : r = r'
    · subst hr
      exact .inr (.inl ⟨rfl, hr', hself⟩)
    · exact .inl (hother hr)
  | @dispatch r' router hr' =>
    by_cases hr : r = r'
    · subst hr
      exact .inr (.inr ⟨router, rfl, hr', hself⟩)
    · exact .inl (hother hr)

/-- A request has what was published at some moment of the schedule. -/
theorem Reaches.exists_fetch (h : Reaches p w as t) {r : Nat} {router : Router ν}
    (hr : (t.requests r).router? = some router) :
    ∃ before after u, as = before ++ .fetch r :: after ∧ Reaches p w before u ∧
      router = u.world.published := by
  induction h with
  | start => simp [Requesting.router?] at hr
  | @step as a t u h hmove ih =>
    have hlater (hsame : (t.requests r).router? = some router) :
        ∃ before after v, as ++ [a] = before ++ .fetch r :: after ∧ Reaches p w before v ∧
          router = v.world.published := by
      obtain ⟨before, after, v, has, hbefore, hrouter⟩ := ih hsame
      exact ⟨before, after ++ [a], v, by simp [has], hbefore, hrouter⟩
    rcases hmove.request_cases r with hsame | ⟨rfl, -, hfetched⟩ | ⟨router', -, hloaded, hanswered⟩
    · exact hlater (hsame ▸ hr)
    · rw [hfetched] at hr
      cases hr
      exact ⟨as, [], t, rfl, h, rfl⟩
    · rw [hanswered] at hr
      cases hr
      exact hlater (by rw [hloaded]; rfl)

/-- A request is answered by a dispatch of what it has. -/
theorem Reaches.exists_dispatch (h : Reaches p w as t) {r : Nat} {router : Router ν}
    {response : Response} (hr : t.requests r = .answered router response) :
    ∃ before after u, as = before ++ .dispatch r :: after ∧ Reaches p w before u ∧
      u.requests r = .loaded router ∧
      response = (p.app.serveFrom router u.world (p.request r)).1 := by
  induction h with
  | start => cases hr
  | @step as a t u h hmove ih =>
    rcases hmove.request_cases r with hsame | ⟨-, -, hfetched⟩ | ⟨router', rfl, hloaded, hanswered⟩
    · obtain ⟨before, after, v, has, hbefore, hanswer⟩ := ih (hsame ▸ hr)
      exact ⟨before, after ++ [a], v, by simp [has], hbefore, hanswer⟩
    · rw [hfetched] at hr
      cases hr
    · rw [hanswered] at hr
      cases hr
      exact ⟨as, [], t, rfl, h, hloaded, rfl⟩

/-! ## Alone -/

/-- A registration that nothing comes between is the registration of the world. -/
theorem Reaches.register_alone {p : Plan ν Registered} {t : Traffic ν Registered}
    (h : Reaches p w as t) {c : Nat} {stop : Bool} {steps : List (Step ν)}
    (hedit : p.edit c = Step.performAll stop steps) (hfree : t.holder = none)
    (hc : t.calls c = .waiting) :
    ∃ u, Reaches p w (as ++ [.lock c, .load c, .edit c, .store c, .unlock c]) u ∧
      u.world = (t.world.register stop steps).1 ∧ u.holder = none ∧
      u.calls c = .returned (t.world.register stop steps).2 ∧
      ∀ d, d ≠ c → u.calls d = t.calls d := by
  have hlocked := h.step (.lock hc hfree)
  have hloaded := hlocked.step (.load (setCall_calls_self t c .locked))
  have hedited := hloaded.step (.edit (setCall_calls_self ..))
  have hstored := hedited.step (.store (setCall_calls_self ..))
  have hreturned := hstored.step (.unlock (setCall_calls_self ..))
  simp only [List.append_assoc, List.cons_append, List.nil_append] at hreturned
  refine ⟨_, hreturned, ?_, rfl, ?_, fun d hd => ?_⟩
  · simp [World.register, setCall, hedit]
  · simp [World.register, setCall, hedit]
  · simp [setCall, Function.update_of_ne hd]

/-- A request that nothing comes between is served by the application. -/
theorem Reaches.serve_alone (h : Reaches p w as t) {r : Nat} (hr : t.requests r = .waiting) :
    ∃ u, Reaches p w (as ++ [.fetch r, .dispatch r]) u ∧
      u.requests r = .answered t.world.published (p.app.serve t.world (p.request r)).1 := by
  have hloaded := h.step (.fetch hr)
  have hanswered := hloaded.step (.dispatch (Function.update_self ..))
  simp only [List.append_assoc, List.cons_append, List.nil_append] at hanswered
  exact ⟨_, hanswered, by simp [setRequest, App.serve_eq_serveFrom]⟩

/-! ## Nothing is lost -/

/-- At every moment the published router is the first one with the edits of those registrations
that have stored, each applied once and in the order in which they took the lock. Every request is
dispatched on a router like this, which has the edits of all registrations that had returned before
the request loaded it. -/
theorem nothing_lost (h : Reaches p w as t) :
    ((applied as).Nodup ∧ (∀ c, c ∈ applied as ↔ .store c ∈ as) ∧
      t.world.published = p.editAll w.published (applied as)) ∧
    (∀ r router, (t.requests r).router? = some router →
      ∃ before after, as = before ++ .fetch r :: after ∧
        router = p.editAll w.published (applied before) ∧
        ∀ c, .unlock c ∈ before → c ∈ applied before) ∧
    ∀ r router response, t.requests r = .answered router response →
      ∃ before after u, as = before ++ .dispatch r :: after ∧ Reaches p w before u ∧
        u.requests r = .loaded router ∧
        response = (p.app.serveFrom router u.world (p.request r)).1 := by
  have htold := h.told
  refine ⟨⟨htold.exclusive.nodup.filter _, fun c => htold.mem_applied, htold.published.router⟩,
    ?_, fun r router response => h.exists_dispatch⟩
  intro r router hr
  obtain ⟨before, after, u, has, hbefore, rfl⟩ := h.exists_fetch hr
  refine ⟨before, after, has, hbefore.told.published.router, fun c hc => ?_⟩
  rw [hbefore.told.mem_applied, (hbefore.told.tracks c).store]
  exact (hbefore.told.tracks c).unlock hc

end Move

/-- Each registration adds a filter of its own. -/
def contest : Plan Empty Registered where
  app := {}
  edit c := Step.performAll false [.filter "" (.edit (.write [UInt8.ofNat c]) .done)]
  request _ := { uri := { path := "/" } }

/-- A request comes between two registrations, the first of which took the lock in front of the
other. -/
theorem nothing_lost_contest :
    ∃ t, Reaches contest {}
        [.lock 1, .fetch 0, .load 1, .edit 1, .store 1, .unlock 1, .lock 0, .load 0, .fetch 1,
          .edit 0, .store 0, .dispatch 0] t ∧
      t.world.published = contest.editAll {} [1, 0] ∧
      (t.requests 0).router? = some (contest.editAll {} []) ∧
      (t.requests 1).router? = some (contest.editAll {} [1]) := by
  have h : Reaches contest {} _ _ :=
    Reaches.start.step (.lock (c := 1) rfl rfl) |>.step (.fetch (r := 0) rfl)
      |>.step (.load (c := 1) rfl) |>.step (.edit (c := 1) rfl) |>.step (.store (c := 1) rfl)
      |>.step (.unlock (c := 1) rfl) |>.step (.lock (c := 0) rfl rfl) |>.step (.load (c := 0) rfl)
      |>.step (.fetch (r := 1) rfl) |>.step (.edit (c := 0) rfl) |>.step (.store (c := 0) rfl)
      |>.step (.dispatch (r := 0) rfl)
  refine ⟨_, h, ?_, rfl, rfl⟩
  rw [(nothing_lost h).1.2.2]
  rfl

end Traffic

end Signpost
