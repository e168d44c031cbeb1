import Signpost.Dispatch

/-!
# Runs of callbacks

A callback acts on a state by effects of its own (`State.Effect`), through its host, and, if it is a
filter, by asking for what comes after it. `Callback.run_ran` says how these make up a run: what
comes after a filter is reached at most once, and all the rest relates the states before and after
by any relation that the effects and the host keep (`Host.Keeps`).

Once a filter has asked, it runs like the callback that answers every further question by
`multipleNext` itself (`Callback.run_exhausted`).
-/

namespace Signpost

variable {ν : Type}

/-! ## Effects -/

/-- `State.Effect s t`: one action of a callback turns `s` into `t` and asks nobody. -/
inductive State.Effect : State ν → State ν → Prop
  | setVars (s : State ν) (vars : Vars) : Effect s (s.setVars vars)
  | setAttributes (s : State ν) (attributes : Attributes) :
      Effect s { s with context := { s.context with attributes } }
  | edit (s : State ν) (e : Http.Response.Edit) :
      Effect s { s with context := s.context.edit e }
  | share (s : State ν) (shared : Attributes) :
      Effect s { s with world := { s.world with shared } }
  | register (s : State ν) (stop : Bool) (steps : List (Step ν)) :
      Effect s { s with world := (s.world.register stop steps).1 }
  | note (s : State ν) (entry : ν) : Effect s (s.log (.note entry))

/-- A reflexive and transitive relation that holds across every effect and every answer of the
host. -/
structure Host.Keeps (host : Host ν) (R : State ν → State ν → Prop) : Prop where
  refl : ∀ s, R s s
  trans : ∀ {s t u}, R s t → R t u → R s u
  effect : ∀ {s t}, s.Effect t → R s t
  report : ∀ failure status s, R s (host.report failure status s)
  page : ∀ path s, R s (host.page path s).2

/-! ## The one effective question of a filter -/

namespace Callback

section Run

variable {host : Host ν} {next : State ν → Except Failure Bool × State ν}
  {R : State ν → State ν → Prop}

/-- How a run that starts in a passage and a state comes to its outcome. -/
inductive Ran (next : State ν → Except Failure Bool × State ν) (R : State ν → State ν → Prop)
    (p : Passage) (s : State ν) (o : Outcome ν) : Prop
  | apart (hR : R s o.state) (hcalled : o.passage.nextCalled = p.nextCalled)
      (hmatched : o.passage.downstreamMatched = p.downstreamMatched)
  /-- Through what comes after it, which was reached in the state `t` and not before. -/
  | through (t : State ν) (hfirst : p.nextCalled = false) (hbefore : R s t)
      (hafter : R (next t).2 o.state) (hcalled : o.passage.nextCalled = true)
      (hmatched : o.passage.downstreamMatched = Passage.matched (next t).1)

namespace Ran

theorem step (h : host.Keeps R) {p : Passage} {s t : State ν} {o : Outcome ν} (hst : R s t)
    (ht : Ran next R p t o) : Ran next R p s o := by
  cases ht with
  | apart hR hcalled hmatched => exact .apart (h.trans hst hR) hcalled hmatched
  | through t hfirst hbefore hafter hcalled hmatched =>
    exact .through t hfirst (h.trans hst hbefore) hafter hcalled hmatched

end Ran

theorem run_ran (h : host.Keeps R) {role : Role} (callback : Callback ν role) (p : Passage)
    (s : State ν) : Ran next R p s (callback.run host next p s) := by
  fun_induction Callback.run host next callback p s
  case case1 => exact .apart (h.refl _) rfl rfl
  case case2 ih | case14 ih => exact ih
  case case3 ih => exact .step h (h.effect (.setVars ..)) ih
  case case4 ih => exact .step h (h.effect (.setAttributes ..)) ih
  case case5 ih => exact .step h (h.effect (.edit ..)) ih
  case case6 ih => exact .step h (h.effect (.share ..)) ih
  case case7 failure status _ _ s ih => exact .step h (h.report failure status s) ih
  case case8 path _ _ s _ _ hpage ih =>
    have hR := h.page path s
    rw [hpage] at hR
    exact .step h hR ih
  case case9 stop steps _ _ s _ _ hregister ih =>
    have hR := h.effect (.register s stop steps)
    rw [hregister] at hR
    exact .step h hR ih
  case case10 ih => exact .step h (h.effect (.note ..)) ih
  case case11 ih => exact ih
  case case12 p s hfirst answer t hnext ih =>
    -- the passage says now that the filter has asked, so the rest runs apart
    cases ih with
    | apart hR hcalled hmatched =>
      exact .through s (by simpa using hfirst) (h.refl s) (by rwa [hnext]) hcalled
        (by rw [hnext]; exact hmatched)
    | through _ hasked => cases hasked
  case case13 ih =>
    cases ih with
    | apart hR hcalled hmatched => exact .apart hR hcalled hmatched
    | through t hfirst hbefore hafter hcalled hmatched =>
      exact .through t hfirst hbefore hafter hcalled hmatched

/-- What holds across the effects, the host and what comes after a filter holds across a run. -/
theorem run_keeps (h : host.Keeps R) (hnext : ∀ s, R s (next s).2) {role : Role}
    (callback : Callback ν role) (p : Passage) (s : State ν) :
    R s (callback.run host next p s).state := by
  have hran : Ran next R p s (callback.run host next p s) := run_ran h callback p s
  cases hran with
  | apart hR => exact hR
  | through t _ hbefore hafter => exact h.trans hbefore (h.trans (hnext t) hafter)

theorem runAlone_keeps (h : host.Keeps R) {role : Role} (callback : Callback ν role)
    (s : State ν) : R s (callback.runAlone host s).2 :=
  run_keeps h h.refl callback {} s

end Run

/-! ## Further questions -/

/-- The callback that asks nothing and goes on as if the answer were `multipleNext`. -/
def exhausted : {role : Role} → Callback ν role → Callback ν role
  | _, .finish result => .finish result
  | _, .look k => .look fun c => (k c).exhausted
  | _, .setVars vars k => .setVars vars k.exhausted
  | _, .setAttributes attributes k => .setAttributes attributes k.exhausted
  | _, .edit e k => .edit e k.exhausted
  | _, .share change k => .share change fun attributes => (k attributes).exhausted
  | _, .report failure status k => .report failure status k.exhausted
  | _, .page path k => .page path fun answer => (k answer).exhausted
  | _, .register stop steps k => .register stop steps fun registered => (k registered).exhausted
  | _, .note entry k => .note entry k.exhausted
  | _, .next k => (k (.error .multipleNext)).exhausted
  | _, .claim k => .claim k.exhausted
  | _, .passage k => .passage fun p => (k p).exhausted

/-- A filter that has asked runs like its exhausted form, whatever comes after it. -/
theorem run_exhausted (host : Host ν) (next next' : State ν → Except Failure Bool × State ν)
    {role : Role} (callback : Callback ν role) (p : Passage) (s : State ν)
    (hp : p.nextCalled = true) :
    callback.run host next p s = callback.exhausted.run host next' p s := by
  fun_induction Callback.run host next callback p s
  case case1 => rfl
  case case2 ih | case3 ih | case4 ih | case5 ih | case6 ih | case7 ih | case10 ih | case13 ih |
      case14 ih =>
    exact ih hp
  case case8 hpage ih => simp only [exhausted, run, hpage, ih hp]
  case case9 hregister ih => simp only [exhausted, run, hregister, ih hp]
  case case11 ih => exact ih hp
  case case12 hfirst _ _ _ _ => exact absurd hp hfirst

end Callback

end Signpost
