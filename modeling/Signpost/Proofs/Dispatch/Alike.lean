import Signpost.Proofs.Dispatch.Simulation

/-!
# Alike runs

Nothing in a run depends on its trail, and only a callback that looks at its context can depend on
the depth. States that differ in nothing else are alike (`State.Alike`), and a run from alike states
gives the same answers and ends in alike states, as long as the callbacks do the same in contexts of
the depths in question (`Callback.Blind`). The relation between the depths is a parameter: with
equality every callback is blind (`Callback.blind_eq`), and only the trails differ.
-/

namespace Signpost

open Http (Status)

variable {ν : Type} {D : Nat → Nat → Prop}

/-! ## Alike states -/

/-- The states differ at most in their trails and in the depths of their contexts, which stand in
the relation. -/
def State.Alike (D : Nat → Nat → Prop) (s t : State ν) : Prop :=
  ∃ depth trail, D s.context.depth depth ∧
    t = { context := { s.context with depth }, world := { s.world with trail } }

/-- The answers are the same and leave alike states. -/
def AnswersAlike {α : Type} (D : Nat → Nat → Prop) (a b : α × State ν) : Prop :=
  a.1 = b.1 ∧ a.2.Alike D b.2

namespace State.Alike

variable {s t : State ν}

protected theorem refl (s : State ν) : s.Alike Eq s := ⟨_, _, rfl, rfl⟩

theorem vars_eq (h : s.Alike D t) : s.context.vars = t.context.vars := by
  obtain ⟨depth, trail, -, rfl⟩ := h
  rfl

theorem request_eq (h : s.Alike D t) : s.context.request = t.context.request := by
  obtain ⟨depth, trail, -, rfl⟩ := h
  rfl

theorem log (h : s.Alike D t) (event event' : Event ν) : (s.log event).Alike D (t.log event') := by
  obtain ⟨depth, trail, hdepth, rfl⟩ := h
  exact ⟨depth, event' :: trail, hdepth, rfl⟩

theorem setVars (h : s.Alike D t) (vars : Vars) : (s.setVars vars).Alike D (t.setVars vars) := by
  obtain ⟨depth, trail, hdepth, rfl⟩ := h
  exact ⟨depth, trail, hdepth, rfl⟩

theorem record (h : s.Alike D t) (failure : Failure) :
    (s.record failure).Alike D (t.record failure) := by
  obtain ⟨depth, trail, hdepth, rfl⟩ := h
  exact ⟨depth, trail, hdepth, rfl⟩

theorem overflow (h : s.Alike D t) : s.overflow.Alike D t.overflow := by
  obtain ⟨depth, trail, hdepth, rfl⟩ := h
  exact ⟨depth, trail, hdepth, rfl⟩

end State.Alike

/-- The hosts answer alike in alike states. -/
structure Host.Alike (D : Nat → Nat → Prop) (host host' : Host ν) : Prop where
  report : ∀ failure status {s t : State ν}, s.Alike D t →
    (host.report failure status s).Alike D (host'.report failure status t)
  page : ∀ path {s t : State ν}, s.Alike D t → AnswersAlike D (host.page path s) (host'.page path t)

theorem Host.Alike.simulates {host host' : Host ν} (h : host.Alike D host') :
    host.Simulates (State.Alike D) host' :=
  ⟨h.report, h.page⟩

/-- The depth of an included page is one more. -/
theorem State.Alike.simulation (hdepth : ∀ {a b}, D a b → D (a + 1) (b + 1)) :
    Simulation (State.Alike (ν := ν) D) fun place place' => place.path = place'.path where
  request_eq := State.Alike.request_eq
  vars_eq := State.Alike.vars_eq
  response_eq := by
    rintro s _ ⟨depth, trail, -, rfl⟩
    rfl
  includeRequest_eq := by
    rintro s _ ⟨depth, trail, -, rfl⟩ path
    rfl
  setVars := State.Alike.setVars
  record := State.Alike.record
  overflow := State.Alike.overflow
  log h _ _ := h.log _ _
  child := by
    rintro s _ ⟨depth, trail, hD, rfl⟩ request
    exact ⟨_, trail, hdepth hD, rfl⟩
  resume := by
    rintro s _ u _ ⟨depth, trail, hD, rfl⟩ ⟨depth', trail', -, rfl⟩ e
    exact ⟨depth, trail', hD, rfl⟩
  start _ _ := rfl
  path_eq := id
  below _ _ _ := rfl

theorem World.register_trail (w : World ν) (trail : List (Event ν)) (stop : Bool)
    (steps : List (Step ν)) :
    ({ w with trail } : World ν).register stop steps =
      ({ (w.register stop steps).1 with trail }, (w.register stop steps).2) := rfl

/-! ## Callbacks -/

namespace Callback

/-- Wherever the callback looks at its context, it goes on in the same way at the depths that stand
in the relation. -/
def Blind (D : Nat → Nat → Prop) : {role : Role} → Callback ν role → Prop
  | _, .finish _ => True
  | _, .look k =>
    (∀ c depth, D c.depth depth → k c = k { c with depth }) ∧ ∀ c, (k c).Blind D
  | _, .setVars _ k => k.Blind D
  | _, .setAttributes _ k => k.Blind D
  | _, .edit _ k => k.Blind D
  | _, .share _ k => ∀ shared, (k shared).Blind D
  | _, .report _ _ k => k.Blind D
  | _, .page _ k => ∀ answer, (k answer).Blind D
  | _, .register _ _ k => ∀ registered, (k registered).Blind D
  | _, .note _ k => k.Blind D
  | _, .next k => ∀ answer, (k answer).Blind D
  | _, .claim k => k.Blind D
  | _, .passage k => ∀ p, (k p).Blind D

/-- Every callback does the same in the same context. -/
theorem blind_eq : ∀ {role : Role} (callback : Callback ν role), callback.Blind Eq
  | _, .finish _ => trivial
  | _, .look k => ⟨fun _ _ h => h ▸ rfl, fun c => blind_eq (k c)⟩
  | _, .setVars _ k => blind_eq k
  | _, .setAttributes _ k => blind_eq k
  | _, .edit _ k => blind_eq k
  | _, .share _ k => fun shared => blind_eq (k shared)
  | _, .report _ _ k => blind_eq k
  | _, .page _ k => fun answer => blind_eq (k answer)
  | _, .register _ _ k => fun registered => blind_eq (k registered)
  | _, .note _ k => blind_eq k
  | _, .next k => fun answer => blind_eq (k answer)
  | _, .claim k => blind_eq k
  | _, .passage k => fun p => blind_eq (k p)

variable {host host' : Host ν} {next next' : State ν → Except Failure Bool × State ν}

theorem plainErrorPage_blind (status : Status) :
    (plainErrorPage status : Callback ν .errorPage).Blind D := by
  refine ⟨fun _ _ _ => rfl, fun c => ?_⟩
  dsimp only
  split <;> exact trivial

theorem Blind.simulates {role : Role} {callback : Callback ν role} (hblind : callback.Blind D) :
    callback.Simulates (State.Alike D) callback := by
  intro host host' hhost next next' hnext p s t h
  fun_induction Callback.run host next callback p s generalizing t
  case case1 => exact ⟨rfl, rfl, h⟩
  case case2 k p s ih =>
    obtain ⟨depth, trail, hdepth, rfl⟩ := h
    have hsame := hblind.1 s.context depth hdepth
    rw [run, ← hsame]
    exact ih (hblind.2 s.context) ⟨depth, trail, hdepth, rfl⟩
  case case3 vars k p s ih => exact ih hblind (h.setVars vars)
  case case4 attributes k p s ih =>
    obtain ⟨depth, trail, hdepth, rfl⟩ := h
    exact ih hblind ⟨depth, trail, hdepth, rfl⟩
  case case5 e k p s ih =>
    obtain ⟨depth, trail, hdepth, rfl⟩ := h
    exact ih hblind ⟨depth, trail, hdepth, rfl⟩
  case case6 change k p s ih =>
    obtain ⟨depth, trail, hdepth, rfl⟩ := h
    exact ih (hblind s.world.shared) ⟨depth, trail, hdepth, rfl⟩
  case case7 failure status k p s ih => exact ih hblind (hhost.report failure status h)
  case case8 path k p s answer s' hpage ih =>
    obtain ⟨hanswer, hstate⟩ := hhost.page path h
    rw [hpage] at hanswer hstate
    rw [run]
    dsimp only
    rw [← hanswer]
    exact ih (hblind answer) hstate
  case case9 stop steps k p s world registered hregister ih =>
    obtain ⟨depth, trail, hdepth, rfl⟩ := h
    rw [run, World.register_trail, hregister]
    exact ih (hblind registered) ⟨depth, trail, hdepth, rfl⟩
  case case10 entry k p s ih => exact ih hblind (h.log _ _)
  case case11 k p s hcalled ih =>
    rw [run, if_pos hcalled]
    exact ih (hblind _) h
  case case12 k p s hfirst answer s' hanswer ih =>
    obtain ⟨hsame, hstate⟩ := hnext h
    rw [hanswer] at hsame hstate
    rw [run, if_neg hfirst]
    dsimp only
    rw [← hsame]
    exact ih (hblind answer) hstate
  case case13 k p s ih => exact ih hblind h
  case case14 k p s ih => exact ih (hblind p) h

end Callback

/-! ## Routers -/

/-- No callback of the router itself looks at what may differ. -/
structure Router.OwnBlind (D : Nat → Nat → Prop) (router : Router ν) : Prop where
  filters : ∀ g ∈ router.filters, g.callback.Blind D
  handlers : ∀ pattern handlers, .page pattern handlers ∈ router.routes →
    ∀ method callback, handlers.get? method = some callback → callback.Blind D

/-- No callback of the router or of one mounted below it looks at what may differ. -/
def Router.Blind (D : Nat → Nat → Prop) (router : Router ν) : Prop :=
  router.Everywhere (Router.OwnBlind D)

theorem Router.Blind.simulates {router : Router ν} (hblind : router.Blind D) :
    router.Simulates (State.Alike D) router := by
  have hown : router.Everywhere (Router.Own fun callback => callback.Blind D) :=
    hblind.imp fun _ h => ⟨h.filters, h.handlers⟩
  have hmap := Router.simulates_map (R := State.Alike D) (f := fun callback => callback)
    (fun _ h => h.simulates) hown
  rwa [Router.map_id] at hmap

/-! ## Sites -/

/-- No callback that a request can come to looks at what may differ. -/
structure Site.Blind (D : Nat → Nat → Prop) (site : Site ν) : Prop where
  root : ∀ root, site.root = some root → root.Blind D
  errorPage : ∀ status, (site.errorPage status).Blind D

theorem Site.Blind.simulates {site : Site ν} (hsite : site.Blind D) :
    site.Simulates (State.Alike D) site := by
  refine ⟨?_, fun status => (hsite.errorPage status).simulates, rfl⟩
  cases hroot : site.root with
  | none => exact .none
  | some root => exact .some (hsite.root root hroot).simulates

end Signpost
