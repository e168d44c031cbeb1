import Signpost.Dispatch

/-!
# Refused steps are invisible

The reports of a registration tell which of its steps succeeded (`Step.keptAll`). Carried out alone,
these make the same router, and none of them is refused (`Step.succeeds_keptAll`); the same holds of
any number of registrations, one after the other (`World.succeeds_kept`).
-/

namespace Signpost

variable {ν : Type}

/-- Induction over a list of steps, along the list and into the steps below mounts. -/
@[elab_as_elim]
theorem Step.list_induction {motive : List (Step ν) → Prop} (nil : motive [])
    (handle : ∀ route callback rest, motive rest → motive (.handle route callback :: rest))
    (filter : ∀ pattern callback rest, motive rest → motive (.filter pattern callback :: rest))
    (mount : ∀ pattern steps rest, motive steps → motive rest →
      motive (.mount pattern steps :: rest)) :
    ∀ steps, motive steps
  | [] => nil
  | .handle route callback :: rest =>
    handle route callback rest (Step.list_induction nil handle filter mount rest)
  | .filter pattern callback :: rest =>
    filter pattern callback rest (Step.list_induction nil handle filter mount rest)
  | .mount pattern steps :: rest =>
    mount pattern steps rest (Step.list_induction nil handle filter mount steps)
      (Step.list_induction nil handle filter mount rest)

/-! ## Reports without refusals -/

mutual

/-- Nothing was refused, neither the step nor one below it. -/
def Report.AllOk : Report → Prop
  | .added _ _ => True
  | .mounted _ _ nested => Report.AllOkAll nested
  | .refused _ => False

def Report.AllOkAll : List Report → Prop
  | [] => True
  | report :: rest => report.AllOk ∧ AllOkAll rest

end

/-- The list was carried out to its end and nothing was refused. -/
def Registered.AllOk (r : Registered) : Prop := r.complete = true ∧ Report.AllOkAll r.reports

/-! ## Steps that succeeded -/

mutual

/-- The step without what was refused of it, where `report` tells how it went. -/
def Step.kept? : Step ν → Report → Option (Step ν)
  | .handle route callback, report =>
    if report.isOk then some (.handle route callback) else none
  | .filter pattern callback, report =>
    if report.isOk then some (.filter pattern callback) else none
  | .mount pattern steps, .mounted _ _ nested => some (.mount pattern (Step.keptAll steps nested))
  | .mount _ _, _ => none

/-- The steps that succeeded according to the reports; there is no report of a step that was not
carried out. -/
def Step.keptAll : List (Step ν) → List Report → List (Step ν)
  | step :: steps, report :: reports => (step.kept? report).toList ++ Step.keptAll steps reports
  | _, _ => []

end

namespace Step

variable {stop : Bool} {router router' : Router ν}

/-- The steps lead from one router to the other, and nothing is refused. -/
def Succeeds (steps : List (Step ν)) (router router' : Router ν) : Prop :=
  (performAll false steps router).1 = router' ∧ (performAll false steps router).2.AllOk

theorem Succeeds.nil (router : Router ν) : Succeeds [] router router := ⟨rfl, rfl, trivial⟩

theorem Succeeds.cons {step : Step ν} {steps : List (Step ν)}
    (hstep : (step.perform false router).2.AllOk)
    (h : Succeeds steps (step.perform false router).1 router') :
    Succeeds (step :: steps) router router' := by
  obtain ⟨hrouter, hcomplete, hreports⟩ := h
  unfold Succeeds
  simp only [performAll, Bool.false_and, Bool.false_eq_true, if_false]
  exact ⟨hrouter, hcomplete, hstep, hreports⟩

theorem Succeeds.append {steps steps' : List (Step ν)} {router'' : Router ν}
    (h : Succeeds steps router router') (h' : Succeeds steps' router' router'') :
    Succeeds (steps ++ steps') router router'' := by
  induction steps generalizing router with
  | nil =>
    obtain ⟨rfl, -⟩ := h
    exact h'
  | cons step steps ih =>
    unfold Succeeds at h
    simp only [performAll, Bool.false_and, Bool.false_eq_true, if_false] at h
    obtain ⟨hrouter, hcomplete, hstep, hreports⟩ := h
    exact .cons hstep (ih ⟨hrouter, hcomplete, hreports⟩)

/-- How one step goes: it is refused and leaves the router as it is, or what is kept of it does the
same. -/
def Keeps (stop : Bool) (step : Step ν) (router : Router ν) : Prop :=
  (∃ fault, step.perform stop router = (router, .refused fault)) ∨
    ∃ kept, step.kept? (step.perform stop router).2 = some kept ∧
      (step.perform stop router).2.isOk = true ∧
      (kept.perform false router).1 = (step.perform stop router).1 ∧
      (kept.perform false router).2.AllOk

theorem keptAll_nil (steps : List (Step ν)) : keptAll steps [] = [] := by
  cases steps <;> rfl

theorem kept?_refused (step : Step ν) (fault : RegistrationFault) :
    step.kept? (.refused fault) = none := by
  cases step <;> rfl

theorem Keeps.cons {step : Step ν} {steps : List (Step ν)} (hstep : step.Keeps stop router)
    (ih : ∀ router, Succeeds (keptAll steps (performAll stop steps router).2.reports) router
      (performAll stop steps router).1) :
    Succeeds (keptAll (step :: steps) (performAll stop (step :: steps) router).2.reports) router
      (performAll stop (step :: steps) router).1 := by
  rw [performAll]
  obtain ⟨fault, hrefused⟩ | ⟨kept, hkept, hok, hrouter, hreport⟩ := hstep
  · rw [hrefused]
    cases stop with
    | true =>
      simp only [Report.isOk, Bool.not_false, Bool.and_self, if_true, keptAll, kept?_refused,
        keptAll_nil, Option.toList_none, List.append_nil]
      exact .nil router
    | false =>
      simp only [Bool.false_and, Bool.false_eq_true, if_false, Registered.cons, keptAll,
        kept?_refused, Option.toList_none, List.nil_append]
      exact ih router
  · simp only [hok, Bool.not_true, Bool.and_false, Bool.false_eq_true, if_false, Registered.cons,
      keptAll, hkept, Option.toList_some, List.singleton_append]
    refine .cons hreport ?_
    rw [hrouter]
    exact ih _

/-- The steps that succeeded make the same router when they are carried out alone. -/
theorem succeeds_keptAll (stop : Bool) (steps : List (Step ν)) : ∀ router,
    Succeeds (keptAll steps (performAll stop steps router).2.reports) router
      (performAll stop steps router).1 := by
  induction steps using Step.list_induction with
  | nil => exact .nil
  | handle route callback rest ih =>
    refine fun router => Keeps.cons ?_ ih
    cases h : router.handle route callback with
    | error fault => exact .inl ⟨fault, by simp [perform, h]⟩
    | ok router' =>
      refine .inr ⟨.handle route callback, ?_⟩
      simp [perform, h, kept?, Report.isOk, Report.AllOk]
  | filter pattern callback rest ih =>
    refine fun router => Keeps.cons ?_ ih
    cases h : router.filter pattern callback with
    | error fault => exact .inl ⟨fault, by simp [perform, h]⟩
    | ok router' =>
      refine .inr ⟨.filter pattern callback, ?_⟩
      simp [perform, h, kept?, Report.isOk, Report.AllOk]
  | mount pattern steps rest ihbelow ih =>
    refine fun router => Keeps.cons ?_ ih
    by_cases hself : Router.mountsSelf pattern = true
    · obtain ⟨hrouter, -, hreports⟩ := ihbelow router
      simp only [Keeps, perform, hself, if_true]
      refine .inr ⟨_, rfl, rfl, ?_⟩
      simp only [perform, hself, if_true, hrouter, true_and]
      exact hreports
    · cases h : Pattern.compile .mount pattern with
      | error cause => exact .inl ⟨.badPattern cause, by simp [perform, hself, h]⟩
      | ok compiled =>
        obtain ⟨hrouter, -, hreports⟩ := ihbelow {}
        simp only [Keeps, perform, hself, h]
        refine .inr ⟨_, rfl, rfl, ?_⟩
        simp only [perform, hself, h, hrouter]
        exact ⟨rfl, hreports⟩

end Step

/-! ## Any number of registrations -/

namespace World

/-- The world after registrations, each given by its steps and by whether a refused step ends its
list. -/
def registerAll (w : World ν) (registrations : List (Bool × List (Step ν))) : World ν :=
  registrations.foldl (fun w (stop, steps) => (w.register stop steps).1) w

/-- The steps of the registrations that succeed, in order. -/
def kept (w : World ν) : List (Bool × List (Step ν)) → List (Step ν)
  | [] => []
  | (stop, steps) :: rest =>
    let (w', registered) := w.register stop steps
    Step.keptAll steps registered.reports ++ kept w' rest

theorem succeeds_kept (registrations : List (Bool × List (Step ν))) : ∀ w : World ν,
    Step.Succeeds (w.kept registrations) w.published (w.registerAll registrations).published := by
  induction registrations with
  | nil => exact fun w => .nil w.published
  | cons registration rest ih =>
    intro w
    obtain ⟨stop, steps⟩ := registration
    have hfirst := Step.succeeds_keptAll stop steps w.published
    exact hfirst.append (ih (w.register stop steps).1)

end World

end Signpost
