import Signpost.Proofs.Dispatch.Simulation

/-!
# Registrations during a run

A request goes on with the router that it started with, so it cannot see what its callbacks
register. To say so, the registrations of callbacks are silenced: in their place nothing happens, or
at most a note is left (`Callback.silenced`). A callback that does the same whatever its
registrations report (`Callback.Steady`) then runs like its silenced form. The states of the two
runs shadow each other (`Silencing.Shadows`): they have the same context, the same shared attributes
and the same trail up to the notes in place of registrations, while the router that is published is
the one at the start after the registrations so far. This is a simulation, so whole dispatches
shadow each other as well.
-/

namespace Signpost

open Http (Status)

variable {ν μ : Type}

/-! ## Silencing -/

/-- What is left of a callback whose registrations are silenced. -/
structure Silencing (ν μ : Type) where
  /-- What becomes of a note. -/
  note : ν → μ
  /-- The note that takes the place of a registration, if one does. -/
  mark : Bool → List (Step ν) → Option μ

namespace Silencing

/-- Nothing takes the place of a registration. -/
def mute : Silencing ν ν := { note := id, mark := fun _ _ => none }

/-- A registration is noted instead of being carried out. -/
def record : Silencing ν (ν ⊕ (Bool × List (Step ν))) :=
  { note := Sum.inl, mark := fun stop steps => some (Sum.inr (stop, steps)) }

/-- The callback after what takes the place of a registration. -/
def leave (σ : Silencing ν μ) {role : Role} (stop : Bool) (steps : List (Step ν))
    (k : Callback μ role) : Callback μ role :=
  match σ.mark stop steps with
  | none => k
  | some entry => .note entry k

end Silencing

/-- The report of a registration of nothing. -/
def Registered.ofNothing : Registered := { complete := true, reports := [] }

namespace Callback

/-- The callback goes on in the same way whatever its registrations report. -/
def Steady : {role : Role} → Callback ν role → Prop
  | _, .finish _ => True
  | _, .look k => ∀ c, (k c).Steady
  | _, .setVars _ k => k.Steady
  | _, .setAttributes _ k => k.Steady
  | _, .edit _ k => k.Steady
  | _, .share _ k => ∀ shared, (k shared).Steady
  | _, .report _ _ k => k.Steady
  | _, .page _ k => ∀ answer, (k answer).Steady
  | _, .register _ _ k =>
    (∀ registered registered', k registered = k registered') ∧ ∀ registered, (k registered).Steady
  | _, .note _ k => k.Steady
  | _, .next k => ∀ answer, (k answer).Steady
  | _, .claim k => k.Steady
  | _, .passage k => ∀ p, (k p).Steady

/-- The callback whose registrations do nothing. -/
def silenced (σ : Silencing ν μ) : {role : Role} → Callback ν role → Callback μ role
  | _, .finish result => .finish result
  | _, .look k => .look fun c => (k c).silenced σ
  | _, .setVars vars k => .setVars vars (k.silenced σ)
  | _, .setAttributes attributes k => .setAttributes attributes (k.silenced σ)
  | _, .edit e k => .edit e (k.silenced σ)
  | _, .share change k => .share change fun shared => (k shared).silenced σ
  | _, .report failure status k => .report failure status (k.silenced σ)
  | _, .page path k => .page path fun answer => (k answer).silenced σ
  | _, .register stop steps k => σ.leave stop steps ((k .ofNothing).silenced σ)
  | _, .note entry k => .note (σ.note entry) (k.silenced σ)
  | _, .next k => .next fun answer => (k answer).silenced σ
  | _, .claim k => .claim (k.silenced σ)
  | _, .passage k => .passage fun p => (k p).silenced σ

end Callback

/-- The router whose callbacks register nothing. -/
def Router.silenced (σ : Silencing ν μ) (router : Router ν) : Router μ :=
  router.map fun callback => callback.silenced σ

/-- No callback of the router or of one mounted below it goes by what its registrations report. -/
def Router.Steady (router : Router ν) : Prop :=
  router.Everywhere (Router.Own fun callback => callback.Steady)

/-! ## Shadows -/

/-- The event with its note replaced. -/
def Event.map (f : ν → μ) : Event ν → Event μ
  | .enter place i => .enter place i
  | .descend place i => .descend place i
  | .resume place i answer => .resume place i answer
  | .leave place i result claimed => .leave place i result claimed
  | .serve place i => .serve place i
  | .served place i result => .served place i result
  | .refuse place i => .refuse place i
  | .note entry => .note (f entry)

theorem Event.map_id (event : Event ν) : event.map id = event := by
  cases event <;> rfl

/-- What happens in a run: an event of its trail, or a registration. -/
abbrev Occurrence (ν : Type) := Event ν ⊕ (Bool × List (Step ν))

namespace Occurrence

/-- The events, the latest first. -/
def events (log : List (Occurrence ν)) : List (Event ν) := log.filterMap Sum.getLeft?

/-- The registrations, the earliest first. -/
def calls (log : List (Occurrence ν)) : List (Bool × List (Step ν)) :=
  (log.filterMap Sum.getRight?).reverse

end Occurrence

namespace Silencing

variable {σ : Silencing ν μ} {w : World ν} {v : World μ} {s : State ν} {t : State μ}

/-- What the silenced run has in its trail. -/
def shadow? (σ : Silencing ν μ) : Occurrence ν → Option (Event μ)
  | .inl event => some (event.map σ.note)
  | .inr call => (σ.mark call.1 call.2).map .note

/-- The state `s` of a run from the world `w` and the state `t` of the silenced run from `v`, after
the same occurrences. -/
def Shadows (σ : Silencing ν μ) (w : World ν) (v : World μ) (s : State ν) (t : State μ) : Prop :=
  ∃ log : List (Occurrence ν), s.world.trail = Occurrence.events log ++ w.trail ∧
    s.world.published = (w.registerAll (Occurrence.calls log)).published ∧
    t = { context := s.context
          world :=
            { published := v.published, shared := s.world.shared
              trail := log.filterMap σ.shadow? ++ v.trail
              overflowed := s.world.overflowed } }

namespace Shadows

theorem start (hshared : w.shared = v.shared) (hoverflowed : w.overflowed = v.overflowed)
    (c : Context) : σ.Shadows w v { context := c, world := w } { context := c, world := v } := by
  refine ⟨[], rfl, rfl, ?_⟩
  dsimp only
  rw [hshared, hoverflowed]
  rfl

theorem context_eq (h : σ.Shadows w v s t) : t.context = s.context := by
  obtain ⟨log, -, -, rfl⟩ := h
  rfl

theorem shared_eq (h : σ.Shadows w v s t) : t.world.shared = s.world.shared := by
  obtain ⟨log, -, -, rfl⟩ := h
  rfl

theorem withContext (h : σ.Shadows w v s t) (c : Context) :
    σ.Shadows w v { s with context := c } { t with context := c } := by
  obtain ⟨log, htrail, hpublished, rfl⟩ := h
  exact ⟨log, htrail, hpublished, rfl⟩

theorem withShared (h : σ.Shadows w v s t) (shared : Attributes) :
    σ.Shadows w v { s with world := { s.world with shared } }
      { t with world := { t.world with shared } } := by
  obtain ⟨log, htrail, hpublished, rfl⟩ := h
  exact ⟨log, htrail, hpublished, rfl⟩

theorem log (h : σ.Shadows w v s t) {event : Event ν} {event' : Event μ}
    (hevent : event' = event.map σ.note) : σ.Shadows w v (s.log event) (t.log event') := by
  obtain ⟨log, htrail, hpublished, rfl⟩ := h
  subst hevent
  refine ⟨.inl event :: log, ?_, hpublished, rfl⟩
  rw [State.log, htrail]
  rfl

theorem setVars (h : σ.Shadows w v s t) (vars : Vars) :
    σ.Shadows w v (s.setVars vars) (t.setVars vars) := by
  unfold State.setVars
  rw [h.context_eq]
  exact h.withContext _

theorem record (h : σ.Shadows w v s t) (failure : Failure) :
    σ.Shadows w v (s.record failure) (t.record failure) := by
  unfold State.record
  rw [h.context_eq]
  exact h.withContext _

theorem overflow (h : σ.Shadows w v s t) : σ.Shadows w v s.overflow t.overflow := by
  obtain ⟨log, htrail, hpublished, rfl⟩ := h
  exact ⟨log, htrail, hpublished, rfl⟩

/-- A registration changes what is published, and nothing in the silenced run besides its note. -/
theorem register (h : σ.Shadows w v s t) (stop : Bool) (steps : List (Step ν)) :
    σ.Shadows w v { s with world := (s.world.register stop steps).1 }
      (match σ.mark stop steps with
        | none => t
        | some entry => t.log (.note entry)) := by
  obtain ⟨log, htrail, hpublished, rfl⟩ := h
  refine ⟨.inr (stop, steps) :: log, htrail, ?_, ?_⟩
  · have hcalls : Occurrence.calls (.inr (stop, steps) :: log) =
        Occurrence.calls log ++ [(stop, steps)] := by
      simp [Occurrence.calls]
    rw [hcalls, World.registerAll, List.foldl_append]
    simp only [World.register, hpublished]
    rfl
  · rw [List.filterMap_cons, shadow?]
    dsimp only
    cases σ.mark stop steps <;> rfl

theorem simulation (σ : Silencing ν μ) (w : World ν) (v : World μ) :
    Simulation (σ.Shadows w v) Eq where
  request_eq h := by rw [h.context_eq]
  vars_eq h := by rw [h.context_eq]
  response_eq h := by rw [h.context_eq]
  includeRequest_eq h _ := by rw [h.context_eq]
  setVars h vars := h.setVars vars
  record h failure := h.record failure
  overflow h := h.overflow
  log h hplace hevent := by
    subst hplace
    refine h.log ?_
    cases hevent <;> rfl
  child h request := by
    rw [h.context_eq]
    exact h.withContext _
  resume h h' e := by
    rw [h.context_eq]
    exact h'.withContext _
  start h path := by rw [h.context_eq]
  path_eq h := congrArg Place.path h
  below h i path := congrArg (fun place => Place.below place i path) h

end Shadows

end Silencing

/-! ## Runs -/

namespace Callback

variable {σ : Silencing ν μ} {w : World ν} {v : World μ} {host' : Host μ}
  {next' : State μ → Except Failure Bool × State μ}

theorem run_leave (σ : Silencing ν μ) {role : Role} (stop : Bool) (steps : List (Step ν))
    (k : Callback μ role) (p : Passage) (t : State μ) :
    (σ.leave stop steps k).run host' next' p t = k.run host' next' p
      (match σ.mark stop steps with
        | none => t
        | some entry => t.log (.note entry)) := by
  unfold Silencing.leave
  cases σ.mark stop steps with
  | none => rfl
  | some entry => rw [run]

/-- A callback that does not go by its registrations runs like its silenced form. -/
theorem Steady.simulates {role : Role} {callback : Callback ν role} (hsteady : callback.Steady) :
    callback.Simulates (σ.Shadows w v) (callback.silenced σ) := by
  intro host host' hhost next next' hnext p s t h
  fun_induction Callback.run host next callback p s generalizing t
  case case1 => exact ⟨rfl, rfl, h⟩
  case case2 k p s ih =>
    rw [silenced, run, h.context_eq]
    exact ih (hsteady s.context) h
  case case3 vars k p s ih => exact ih hsteady (h.setVars vars)
  case case4 attributes k p s ih =>
    rw [silenced, run, h.context_eq]
    exact ih hsteady (h.withContext _)
  case case5 e k p s ih =>
    rw [silenced, run, h.context_eq]
    exact ih hsteady (h.withContext _)
  case case6 change k p s ih =>
    rw [silenced, run, h.shared_eq]
    exact ih (hsteady s.world.shared) (h.withShared _)
  case case7 failure status k p s ih => exact ih hsteady (hhost.report failure status h)
  case case8 path k p s answer s' hpage ih =>
    obtain ⟨hanswer, hstate⟩ := hhost.page path h
    rw [hpage] at hanswer hstate
    rw [silenced, run]
    dsimp only
    rw [← hanswer]
    exact ih (hsteady answer) hstate
  case case9 stop steps k p s world registered hregister ih =>
    have hworld := h.register stop steps
    rw [hregister] at hworld
    rw [silenced, run_leave, hsteady.1 .ofNothing registered]
    exact ih (hsteady.2 registered) hworld
  case case10 entry k p s ih => exact ih hsteady (h.log rfl)
  case case11 k p s hcalled ih =>
    rw [silenced, run, if_pos hcalled]
    exact ih (hsteady _) h
  case case12 k p s hfirst answer s' hanswer ih =>
    obtain ⟨hsame, hstate⟩ := hnext h
    rw [hanswer] at hsame hstate
    rw [silenced, run, if_neg hfirst]
    dsimp only
    rw [← hsame]
    exact ih (hsteady answer) hstate
  case case13 k p s ih => exact ih hsteady h
  case case14 k p s ih => exact ih (hsteady p) h

end Callback

theorem Router.Steady.simulates {σ : Silencing ν μ} {w : World ν} {v : World μ}
    {router : Router ν} (hsteady : router.Steady) :
    router.Simulates (σ.Shadows w v) (router.silenced σ) :=
  Router.simulates_map (fun _ h => h.simulates) hsteady

end Signpost
