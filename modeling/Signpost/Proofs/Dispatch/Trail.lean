import Signpost.Proofs.Callback

/-!
# The trail of a page

The trail of a run holds what happened on the page itself and on the pages that it includes, told
apart by the depth of the place. `State.Leads` says how a part of a run extends the trail of the
page at one depth, when only deeper pages are left out. A host that keeps to deeper pages is quiet
at that depth (`Host.Quiet`), and so are callbacks that run on it.
-/

namespace Signpost

variable {ν : Type}

/-! ## Events by depth -/

namespace Event

def place? : Event ν → Option Place
  | .enter place _ => some place
  | .descend place _ => some place
  | .resume place _ _ => some place
  | .leave place _ _ _ => some place
  | .serve place _ => some place
  | .served place _ _ => some place
  | .refuse place _ => some place
  | .note _ => none

/-- Whether the event happened on a page at the depth. -/
def isAt (depth : Nat) (e : Event ν) : Bool := e.place?.any (·.depth == depth)

/-- Whether the event happened on a page at the depth or above. -/
def isWithin (depth : Nat) (e : Event ν) : Bool := e.place?.any (·.depth ≤ depth)

theorem isAt_of_place? {e : Event ν} {place : Place} (h : e.place? = some place) :
    e.isAt place.depth = true := by
  unfold isAt
  rw [h, Option.any_some, beq_self_eq_true]

theorem isWithin_of_isAt {depth : Nat} {e : Event ν} (h : e.isAt depth = true) :
    e.isWithin depth = true := by
  unfold isAt at h
  unfold isWithin
  cases hp : e.place? with
  | none => simp [hp] at h
  | some place => simp only [hp, Option.any_some, beq_iff_eq, decide_eq_true_eq] at h ⊢; omega

theorem isWithin_succ {depth : Nat} {e : Event ν} (h : e.isWithin depth = true) :
    e.isWithin (depth + 1) = true := by
  unfold isWithin at h ⊢
  cases hp : e.place? with
  | none => simp [hp] at h
  | some place => simp only [hp, Option.any_some, decide_eq_true_eq] at h ⊢; omega

theorem not_isWithin_of_isAt_succ {depth : Nat} {e : Event ν} (h : e.isAt (depth + 1) = true) :
    e.isWithin depth = false := by
  unfold isAt at h
  unfold isWithin
  cases hp : e.place? with
  | none => rfl
  | some place =>
    simp only [hp, Option.any_some, beq_iff_eq] at h
    simp only [Option.any_some, decide_eq_false_iff_not]
    omega

end Event

namespace World

def eventsAt (w : World ν) (depth : Nat) : List (Event ν) :=
  w.trail.reverse.filter (·.isAt depth)

/-- The events of the trail on pages at the depth or above, in order. -/
def eventsWithin (w : World ν) (depth : Nat) : List (Event ν) :=
  w.trail.reverse.filter (·.isWithin depth)

theorem eventsAt_eq_filter (w : World ν) (depth : Nat) :
    w.eventsAt depth = (w.eventsWithin depth).filter (·.isAt depth) := by
  unfold eventsAt eventsWithin
  rw [List.filter_filter]
  apply List.filter_congr
  intro e _
  cases h : e.isAt depth with
  | false => rfl
  | true => simp [Event.isWithin_of_isAt h]

theorem eventsWithin_eq_filter (w : World ν) (depth : Nat) :
    w.eventsWithin depth = (w.eventsWithin (depth + 1)).filter (·.isWithin depth) := by
  unfold eventsWithin
  rw [List.filter_filter]
  apply List.filter_congr
  intro e _
  cases h : e.isWithin depth with
  | false => rfl
  | true => simp [Event.isWithin_succ h]

end World

/-! ## Parts of a run -/

namespace State

/-- A part of a run that leads from `s` to `t`, on a page at the depth, with the events `es` on this
page. -/
structure Leads (depth : Nat) (s : State ν) (es : List (Event ν)) (t : State ν) : Prop where
  left : s.context.depth = depth
  right : t.context.depth = depth
  events : t.world.eventsWithin depth = s.world.eventsWithin depth ++ es

namespace Leads

variable {depth : Nat} {s t u : State ν} {es es' : List (Event ν)}

theorem refl (hs : s.context.depth = depth) : Leads depth s [] s := ⟨hs, hs, by simp⟩

theorem trans (h : Leads depth s es t) (h' : Leads depth t es' u) :
    Leads depth s (es ++ es') u :=
  ⟨h.left, h'.right, by rw [h'.events, h.events, List.append_assoc]⟩

theorem log (h : Leads depth s es t) {e : Event ν} (he : e.isAt depth = true) :
    Leads depth s (es ++ [e]) (t.log e) := by
  refine h.trans ⟨h.right, h.right, ?_⟩
  unfold World.eventsWithin
  simp [State.log, Event.isWithin_of_isAt he]

/-- Changes that neither the depth nor the trail shows. -/
theorem of_eq (h : Leads depth s es t) (hdepth : u.context.depth = t.context.depth)
    (htrail : u.world.trail = t.world.trail) : Leads depth s es u := by
  refine ⟨h.left, hdepth.trans h.right, ?_⟩
  rw [← h.events]
  unfold World.eventsWithin
  rw [htrail]

/-- What happens on an included page leaves no event on the page that includes it. -/
theorem eventsWithin_eq (h : Leads (depth + 1) s es t) (hes : ∀ e ∈ es, e.isAt (depth + 1) = true) :
    t.world.eventsWithin depth = s.world.eventsWithin depth := by
  have hnone : es.filter (·.isWithin depth) = [] := by
    rw [List.filter_eq_nil_iff]
    intro e he
    simp [Event.not_isWithin_of_isAt_succ (hes e he)]
  rw [World.eventsWithin_eq_filter t.world, h.events, List.filter_append, hnone, List.append_nil,
    ← World.eventsWithin_eq_filter]

end Leads

end State

/-! ## Quiet hosts -/

/-- A host that leaves no events on pages at the depth or above. -/
structure Host.Quiet (host : Host ν) (depth : Nat) : Prop where
  report : ∀ failure status (s : State ν), s.context.depth = depth →
    s.Leads depth [] (host.report failure status s)
  page : ∀ path (s : State ν), s.context.depth = depth → s.Leads depth [] (host.page path s).2

namespace State.Effect

/-- The effects of a callback are no events on its page. -/
theorem leads {depth : Nat} {s t : State ν} (h : s.Effect t) (hs : s.context.depth = depth) :
    s.Leads depth [] t := by
  cases h with
  | note entry =>
    refine ⟨hs, hs, ?_⟩
    unfold World.eventsWithin
    simp [State.log, Event.isWithin, Event.place?]
  | _ => exact (Leads.refl hs).of_eq rfl rfl

end State.Effect

theorem Host.Quiet.keeps {host : Host ν} {depth : Nat} (h : host.Quiet depth) :
    host.Keeps fun s t => s.context.depth = depth → s.Leads depth [] t where
  refl _ hs := .refl hs
  trans hst htu hs := (hst hs).trans (htu (hst hs).right)
  effect he hs := he.leads hs
  report failure status s := h.report failure status s
  page path s := h.page path s

end Signpost
