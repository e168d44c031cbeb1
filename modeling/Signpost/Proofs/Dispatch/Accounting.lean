import Signpost.Proofs.Dispatch.Guarding

/-!
# What an answer says about a run

The answer of a run can be read off its events (`Accounted`): at most one route decides; the answer
is `.ok false` exactly if none does and every filter that was entered passed the request on, failed
in nothing and claimed nothing; and a failure is one that a callback ended with. The same holds of
the answer that a filter gets, read over what came after the filter, whatever the filters there do
with the answers that they get themselves (`Visit.Run.accounted_of_descend`).
-/

namespace Signpost

variable {ν : Type}

/-! ## Accounts -/

/-- Every filter that was entered passed the request on, failed in nothing and claimed nothing. -/
def PassedOn (es : List (Event ν)) : Prop :=
  ∀ place k, Event.enter place k ∈ es →
    Event.descend place k ∈ es ∧ Event.leave place k (.ok ()) false ∈ es

/-- What the answer of a run says about its events. -/
structure Accounted (es : List (Event ν)) (a : Except Failure Bool) : Prop where
  /-- At most one route decides. -/
  decided_once : es.countP (·.decision?.isSome) ≤ 1
  /-- Nothing matched exactly if no route decided and no filter kept the request. -/
  missed_iff : a = .ok false ↔ (∀ e ∈ es, e.decision? = none) ∧ PassedOn es
  /-- A failure was returned by a filter or by a handler. -/
  raised : ∀ failure, a = .error failure → ∃ place k,
    (∃ claimed, Event.leave place k (.error failure) claimed ∈ es) ∨
      Event.served place k (.error failure) ∈ es

/-! ## Filters of different parts of a run -/

namespace PassedOn

variable {es es' : List (Event ν)}

theorem append_iff (hapart : Apart es es') :
    PassedOn (es ++ es') ↔ PassedOn es ∧ PassedOn es' := by
  constructor
  · intro h
    refine ⟨fun place k henter => ?_, fun place k henter => ?_⟩
    · obtain ⟨hdescend, hleave⟩ := h place k (List.mem_append_left _ henter)
      refine ⟨(List.mem_append.mp hdescend).resolve_right fun hmem => ?_,
        (List.mem_append.mp hleave).resolve_right fun hmem => ?_⟩
      · exact hapart _ henter _ hmem _ _ _ _ rfl rfl
      · exact hapart _ henter _ hmem _ _ _ _ rfl rfl
    · obtain ⟨hdescend, hleave⟩ := h place k (List.mem_append_right _ henter)
      refine ⟨(List.mem_append.mp hdescend).resolve_left fun hmem => ?_,
        (List.mem_append.mp hleave).resolve_left fun hmem => ?_⟩
      · exact hapart _ hmem _ henter _ _ _ _ rfl rfl
      · exact hapart _ hmem _ henter _ _ _ _ rfl rfl
  · rintro ⟨h, h'⟩ place k henter
    obtain henter | henter := List.mem_append.mp henter
    · obtain ⟨hdescend, hleave⟩ := h place k henter
      exact ⟨List.mem_append_left _ hdescend, List.mem_append_left _ hleave⟩
    · obtain ⟨hdescend, hleave⟩ := h' place k henter
      exact ⟨List.mem_append_right _ hdescend, List.mem_append_right _ hleave⟩

theorem around_iff {place : Place} {i : Nat} {a : Except Failure Bool}
    {result : Except Failure Unit} {claimed : Bool}
    (hne : ∀ m, (m, place.mounts, i) ∉ es.filterMap Event.moment?) :
    PassedOn (.enter place i :: .descend place i ::
        (es ++ [.resume place i a, .leave place i result claimed])) ↔
      PassedOn es ∧ result = .ok () ∧ claimed = false := by
  have hmem : ∀ e ∈ es, ∀ m, e.moment? ≠ some (m, place.mounts, i) := fun e he m hm =>
    hne m (List.mem_filterMap.mpr ⟨e, he, hm⟩)
  constructor
  · intro h
    refine ⟨fun place' k henter => ?_, ?_⟩
    · obtain ⟨hdescend, hleave⟩ := h place' k (by simp [henter])
      simp only [List.mem_cons, List.mem_append, Event.descend.injEq, Event.leave.injEq,
        reduceCtorEq, List.not_mem_nil, or_false, false_or] at hdescend hleave
      refine ⟨hdescend.resolve_left ?_, hleave.resolve_right ?_⟩
      · rintro ⟨rfl, rfl⟩
        exact hmem _ henter _ rfl
      · rintro ⟨rfl, rfl, -⟩
        exact hmem _ henter _ rfl
    · obtain ⟨-, hleave⟩ := h place i List.mem_cons_self
      simp only [List.mem_cons, List.mem_append, Event.leave.injEq, reduceCtorEq,
        List.not_mem_nil, or_false, false_or] at hleave
      obtain hleave | ⟨-, -, hresult, hclaimed⟩ := hleave
      · exact absurd rfl (hmem _ hleave .leave)
      · exact ⟨hresult.symm, hclaimed.symm⟩
  · rintro ⟨h, rfl, rfl⟩ place' k henter
    simp only [List.mem_cons, List.mem_append, Event.enter.injEq, reduceCtorEq, List.not_mem_nil,
      or_false, false_or] at henter
    obtain ⟨rfl, rfl⟩ | henter := henter
    · simp
    · obtain ⟨hdescend, hleave⟩ := h place' k henter
      simp [hdescend, hleave]

end PassedOn

/-! ## Runs are accounted for -/

theorem map_eq_ok_false_iff {result : Except Failure Unit} {b : Bool} :
    (result.map fun _ => b) = .ok false ↔ result = .ok () ∧ b = false := by
  cases result <;> simp [Except.map]

theorem map_eq_error_iff {result : Except Failure Unit} {b : Bool} {failure : Failure} :
    (result.map fun _ => b) = .error failure ↔ result = .error failure := by
  cases result <;> simp [Except.map]

theorem Passage.matched_eq_false_iff {a : Except Failure Bool} :
    Passage.matched a = false ↔ a = .ok false := by
  cases a <;> simp [Passage.matched]

namespace Visit.Run

variable {v : Visit ν} {stage : Stage} {es : List (Event ν)} {a : Except Failure Bool}

theorem accounted (h : v.Run stage es a) : Accounted es a := by
  induction h with
  | enough _ _ ih | skip _ _ _ ih | overlook _ _ _ ih | bypass _ _ _ ih => exact ih
  | decide _ _ _ _ ih => exact ih
  | stop result claimed hg hfit =>
    refine ⟨by simp [Event.decision?], ?_, fun failure ha => ?_⟩
    · simp [map_eq_ok_false_iff, PassedOn]
    · obtain rfl := map_eq_error_iff.mp ha
      exact ⟨_, _, .inl ⟨claimed, List.mem_cons_of_mem _ List.mem_cons_self⟩⟩
  | @pass v i g es a result claimed hg hfit h ih =>
    refine ⟨?_, ?_, fun failure ha => ?_⟩
    · simpa [Event.decision?] using ih.decided_once
    · rw [PassedOn.around_iff h.moment?_ne, map_eq_ok_false_iff, Bool.or_eq_false_iff,
        Passage.matched_eq_false_iff, ih.missed_iff]
      simp only [List.mem_cons, List.mem_append, List.not_mem_nil, or_false, or_imp, forall_and,
        forall_eq, Event.decision?]
      grind
    · obtain rfl := map_eq_error_iff.mp ha
      refine ⟨v.place, i, .inl ⟨claimed, ?_⟩⟩
      exact List.mem_cons_of_mem _ (List.mem_cons_of_mem _ (List.mem_append_right _ (by simp)))
  | exhausted => exact ⟨by simp, by simp [PassedOn], by simp⟩
  | serve result hroute hfit =>
    refine ⟨by simp [Event.decision?], ?_, fun failure ha => ?_⟩
    · simp [map_eq_ok_false_iff, Event.decision?]
    · obtain rfl := map_eq_error_iff.mp ha
      exact ⟨_, _, .inr (List.mem_cons_of_mem _ List.mem_cons_self)⟩
  | refuse => exact ⟨by simp [Event.decision?], by simp [Event.decision?], by simp⟩
  | back hroute hmount hbelow h ihbelow ih =>
    obtain ⟨hundecided, hpassed⟩ := ihbelow.missed_iff.mp rfl
    refine ⟨?_, ?_, fun failure ha => ?_⟩
    · rw [List.countP_append, List.countP_eq_zero.mpr fun e he => by simp [hundecided e he]]
      simpa using ih.decided_once
    · rw [PassedOn.append_iff (hbelow.apart h), ih.missed_iff]
      simp only [List.mem_append, or_imp, forall_and]
      grind
    · obtain ⟨place, k, ⟨claimed, hmem⟩ | hmem⟩ := ih.raised failure ha
      · exact ⟨place, k, .inl ⟨claimed, List.mem_append_right _ hmem⟩⟩
      · exact ⟨place, k, .inr (List.mem_append_right _ hmem)⟩

/-- The answer that a filter gets says about what came after the filter what the answer of a run
says about the run. -/
theorem accounted_of_descend (h : v.Run stage es a) : ∀ place k, Event.descend place k ∈ es →
    ∃ before below answer after,
      es = before ++ .descend place k :: (below ++ .resume place k answer :: after) ∧
        Accounted below answer := by
  induction h with
  | enough _ _ ih | skip _ _ _ ih | overlook _ _ _ ih | bypass _ _ _ ih => exact ih
  | decide _ _ _ _ ih => exact ih
  | stop | exhausted | serve | refuse => simp
  | @pass v i g es a result claimed hg hfit h ih =>
    intro place k hmem
    simp only [List.mem_cons, List.mem_append, Event.descend.injEq, reduceCtorEq, List.not_mem_nil,
      or_false, false_or] at hmem
    obtain ⟨rfl, rfl⟩ | hmem := hmem
    · exact ⟨[.enter _ _], es, a, [.leave _ _ result claimed], rfl, h.accounted⟩
    · obtain ⟨before, below, answer, after, heq, hbelow⟩ := ih place k hmem
      exact ⟨.enter v.place i :: .descend v.place i :: before, below, answer,
        after ++ [.resume v.place i a, .leave v.place i result claimed], by simp [heq], hbelow⟩
  | @back v i pattern filters routes suffix captures es es' a hroute hmount hbelow h ihbelow ih =>
    intro place k hmem
    obtain hmem | hmem := List.mem_append.mp hmem
    · obtain ⟨before, below, answer, after, heq, haccounted⟩ := ihbelow place k hmem
      exact ⟨before, below, answer, after ++ es', by simp [heq], haccounted⟩
    · obtain ⟨before, below, answer, after, heq, haccounted⟩ := ih place k hmem
      exact ⟨es ++ before, below, answer, after, by simp [heq], haccounted⟩

end Visit.Run

/-! ## Dispatches -/

/-- Let `es` be the events of a dispatch, the pages that it includes left out. The answer of the
dispatch accounts for them; and the answer that a filter gets when it first asks accounts for all
that happened between the question and the answer, of which there is one each. -/
theorem Router.dispatch_accounted (site : Site ν) (router : Router ν) (path : String)
    (s : State ν) :
    let answer := router.dispatch (site.host s.context) path s
    ∃ es, answer.2.world.eventsAt s.context.depth = s.world.eventsAt s.context.depth ++ es ∧
      Accounted es answer.1 ∧ (es.filterMap Event.moment?).Nodup ∧
      ∀ place k, Event.descend place k ∈ es →
        ∃ before below a after,
          es = before ++ .descend place k :: (below ++ .resume place k a :: after) ∧
            Accounted below a := by
  intro answer
  obtain ⟨es, hrun, hes⟩ := router.eventsAt_dispatch site path s
  exact ⟨es, hes, hrun.accounted, hrun.nodup_moments, hrun.accounted_of_descend⟩

end Signpost
