import Signpost.Shutdown

/-!
# Signals are accounted for

A channel keeps the latest signal only, so a listener that comes late hears of the earlier ones as a
number. Nothing gets lost that way: from its subscription on, what a listener received, what it was
told that it missed and what it has not seen yet make up all signals that were sent, through
whichever clone (`Shutdown.signals_accounted`). One action changes both sides of this balance by the
same number (`Shutdown.Awaits.perform`); signals before the subscription are on neither side.
-/

namespace Signpost.Shutdown

/-! ## Histories -/

/-- What can be done with a channel. Clones share the channel, whichever an action goes through. -/
inductive Action where
  | subscribe (clone : Nat)
  | trigger (clone : Nat)
  | drop (listener : Nat)
  /-- The listener looks for a signal without waiting for one. -/
  | receive (listener : Nat)
  deriving DecidableEq, Repr

/-- What an action came to. -/
inductive Happening where
  | subscribed (listener : Nat)
  | triggered (clone : Nat)
  | dropped (listener : Nat)
  | received (listener : Nat) (found : Reception)
  deriving DecidableEq, Repr

def perform (s : Shutdown) : Action → Happening × Shutdown
  | .subscribe _ => (.subscribed s.listeners.length, s.subscribe)
  | .trigger clone => (.triggered clone, s.trigger)
  | .drop i => (.dropped i, s.drop i)
  | .receive i => (.received i (s.receive i).1, (s.receive i).2)

/-- The channel after the actions. -/
def performAll : Shutdown → List Action → Shutdown
  | s, [] => s
  | s, action :: rest => performAll (s.perform action).2 rest

/-- What the actions came to, one after the other. -/
def history : Shutdown → List Action → List Happening
  | _, [] => []
  | s, action :: rest => (s.perform action).1 :: history (s.perform action).2 rest

namespace Happening

@[simp]
def triggers : Happening → Nat
  | .triggered _ => 1
  | _ => 0

/-- How many signals the listener received. -/
@[simp]
def signals (i : Nat) : Happening → Nat
  | .received j .signal => if j = i then 1 else 0
  | _ => 0

/-- How many signals the listener was told that it missed. -/
@[simp]
def missed (i : Nat) : Happening → Nat
  | .received j (.lagged n) => if j = i then n else 0
  | _ => 0

end Happening

def triggers : List Happening → Nat
  | [] => 0
  | e :: es => e.triggers + triggers es

def signals (i : Nat) : List Happening → Nat
  | [] => 0
  | e :: es => e.signals i + signals i es

def missed (i : Nat) : List Happening → Nat
  | [] => 0
  | e :: es => e.missed i + missed i es

/-- What happened after the subscription of the listener. -/
def since (i : Nat) (es : List Happening) : List Happening :=
  (es.dropWhile (· ≠ .subscribed i)).drop 1

theorem since_cons_self (i : Nat) (es : List Happening) : since i (.subscribed i :: es) = es := by
  simp [since]

theorem since_cons_of_ne {i : Nat} {e : Happening} (h : e ≠ .subscribed i) (es : List Happening) :
    since i (e :: es) = since i es := by
  simp [since, h]

/-! ## The balance of a listener -/

/-- The listener takes part, and there are `n` signals that it has not seen. -/
def Awaits (s : Shutdown) (i n : Nat) : Prop :=
  ∃ done, s.listeners[i]? = some (some done) ∧ done + n = s.sent

namespace Awaits

variable {s : Shutdown} {i n : Nat}

theorem unseen?_eq (h : s.Awaits i n) : s.unseen? i = some n := by
  obtain ⟨done, hdone, hn⟩ := h
  simp [unseen?, hdone]
  omega

theorem lt_length (h : s.Awaits i n) : i < s.listeners.length := by
  obtain ⟨done, hdone, -⟩ := h
  exact (List.getElem?_eq_some_iff.mp hdone).1

/-- While anybody listens, every signal is sent. -/
theorem listenerCount_ne (h : s.Awaits i n) : s.listenerCount ≠ 0 := by
  obtain ⟨done, hdone, -⟩ := h
  have hmem : some done ∈ s.listeners := List.mem_of_getElem? hdone
  intro hzero
  exact absurd (List.countP_eq_zero.mp hzero _ hmem) (by simp)

theorem of_subscribe (s : Shutdown) : s.subscribe.Awaits s.listeners.length 0 :=
  ⟨s.sent, by simp [subscribe], rfl⟩

theorem subscribe (h : s.Awaits i n) : s.subscribe.Awaits i n := by
  have hi := h.lt_length
  obtain ⟨done, hdone, hn⟩ := h
  exact ⟨done, by simp [Shutdown.subscribe, List.getElem?_append_left hi, hdone], hn⟩

theorem trigger (h : s.Awaits i n) : s.trigger.Awaits i (n + 1) := by
  have hcount := h.listenerCount_ne
  obtain ⟨done, hdone, hn⟩ := h
  unfold Shutdown.trigger
  rw [if_neg hcount]
  exact ⟨done, hdone, by simp only; omega⟩

theorem drop (h : s.Awaits i n) {j : Nat} (hj : j ≠ i) : (s.drop j).Awaits i n := by
  obtain ⟨done, hdone, hn⟩ := h
  exact ⟨done, by simp [Shutdown.drop, List.getElem?_set_ne hj, hdone], hn⟩

/-- What another listener finds does not matter. -/
theorem receive_of_ne (h : s.Awaits i n) {j : Nat} (hj : j ≠ i) : (s.receive j).2.Awaits i n := by
  obtain ⟨done, hdone, hn⟩ := h
  refine ⟨done, ?_, ?_⟩
  · unfold receive
    split <;> simp [List.getElem?_set_ne hj, hdone]
  · unfold receive
    split <;> exact hn

theorem receive_zero (h : s.Awaits i 0) :
    (s.receive i).1 = .empty ∧ (s.receive i).2.Awaits i 0 := by
  simp [receive, h.unseen?_eq, h]

theorem receive_one (h : s.Awaits i 1) :
    (s.receive i).1 = .signal ∧ (s.receive i).2.Awaits i 0 := by
  simp only [receive, h.unseen?_eq, true_and]
  exact ⟨s.sent, List.getElem?_set_self h.lt_length, rfl⟩

/-- A listener that is late is told how many signals came before the latest, and can still receive
that one. -/
theorem receive_more (h : s.Awaits i (n + 2)) :
    (s.receive i).1 = .lagged (n + 1) ∧ (s.receive i).2.Awaits i 1 := by
  simp only [receive, h.unseen?_eq, true_and]
  refine ⟨s.sent - 1, List.getElem?_set_self h.lt_length, ?_⟩
  obtain ⟨done, -, hn⟩ := h
  simp only
  omega

/-- What a listener finds is what there is less for it to see. -/
theorem receive_self (h : s.Awaits i n) :
    ∃ m, (s.receive i).2.Awaits i m ∧
      (Happening.received i (s.receive i).1).signals i +
        (Happening.received i (s.receive i).1).missed i + m = n := by
  match n with
  | 0 => exact ⟨0, h.receive_zero.2, by simp [h.receive_zero.1]⟩
  | 1 => exact ⟨0, h.receive_one.2, by simp [h.receive_one.1]⟩
  | n + 2 => exact ⟨1, h.receive_more.2, by simp [h.receive_more.1]⟩

theorem receive_eq_empty_iff (h : s.Awaits i n) : (s.receive i).1 = .empty ↔ n = 0 := by
  match n with
  | 0 => simp [h.receive_zero.1]
  | 1 => simp [h.receive_one.1]
  | n + 2 => simp [h.receive_more.1]

/-- Looking twice is enough to receive the latest signal and to hear of all others. -/
theorem receive_twice (h : s.Awaits i n) :
    let looks := s.history [.receive i, .receive i]
    signals i looks = min n 1 ∧ missed i looks = n - 1 ∧
      (s.performAll [.receive i, .receive i]).Awaits i 0 := by
  simp only [history, Shutdown.performAll, Shutdown.perform, Shutdown.signals, Shutdown.missed]
  match n with
  | 0 =>
    obtain ⟨hfound, hnext⟩ := h.receive_zero
    simp [hfound, hnext.receive_zero]
  | 1 =>
    obtain ⟨hfound, hnext⟩ := h.receive_one
    simp [hfound, hnext.receive_zero]
  | n + 2 =>
    obtain ⟨hfound, hnext⟩ := h.receive_more
    simp [hfound, hnext.receive_one]

/-- One action keeps the balance of what was sent and what the listener knows of. -/
theorem perform (h : s.Awaits i n) {action : Action} (hlive : (s.perform action).1 ≠ .dropped i) :
    ∃ m, (s.perform action).2.Awaits i m ∧
      (s.perform action).1.signals i + (s.perform action).1.missed i + m =
        n + (s.perform action).1.triggers := by
  cases action with
  | subscribe clone => exact ⟨n, h.subscribe, by simp [Shutdown.perform]⟩
  | trigger clone => exact ⟨n + 1, h.trigger, by simp [Shutdown.perform]⟩
  | drop j =>
    have hj : j ≠ i := by rintro rfl; exact hlive rfl
    exact ⟨n, h.drop hj, by simp [Shutdown.perform]⟩
  | receive j =>
    by_cases hj : j = i
    · subst hj
      obtain ⟨m, hm, hbalance⟩ := h.receive_self
      exact ⟨m, hm, hbalance⟩
    · refine ⟨n, h.receive_of_ne hj, ?_⟩
      simp only [Shutdown.perform]
      cases (s.receive j).1 <;> simp [hj]

theorem performAll {actions : List Action} : ∀ {s : Shutdown} {n : Nat}, s.Awaits i n →
    .dropped i ∉ s.history actions →
    ∃ m, (s.performAll actions).Awaits i m ∧
      signals i (s.history actions) + missed i (s.history actions) + m =
        n + triggers (s.history actions) := by
  induction actions with
  | nil => exact fun {s n} h _ => ⟨n, h, by simp [history, signals, missed, triggers]⟩
  | cons action rest ih =>
    intro s n h hlive
    simp only [history, List.mem_cons, not_or] at hlive
    obtain ⟨m, hm, hstep⟩ := h.perform (Ne.symm hlive.1)
    obtain ⟨m', hm', hrest⟩ := ih hm hlive.2
    refine ⟨m', hm', ?_⟩
    simp only [history, signals, missed, triggers] at hrest ⊢
    omega

end Awaits

/-! ## From the subscription on -/

/-- A listener starts with nothing to see, whatever was sent before. -/
theorem exists_subscription {i : Nat} {actions : List Action} : ∀ {s : Shutdown},
    .subscribed i ∈ s.history actions →
    ∃ (t : Shutdown) (rest : List Action), t.Awaits i 0 ∧
      since i (s.history actions) = t.history rest ∧
      s.performAll actions = t.performAll rest := by
  induction actions with
  | nil => simp [history]
  | cons action rest ih =>
    intro s hmem
    by_cases hfirst : (s.perform action).1 = .subscribed i
    · refine ⟨(s.perform action).2, rest, ?_, ?_, rfl⟩
      · cases action with
        | subscribe clone =>
          obtain rfl : s.listeners.length = i := by simpa [perform] using hfirst
          exact .of_subscribe s
        | trigger _ | drop _ | receive _ => simp [perform] at hfirst
      · rw [history, hfirst, since_cons_self]
    · simp only [history, List.mem_cons] at hmem
      obtain ⟨t, rest', hawaits, hsince, hafter⟩ :=
        ih (hmem.resolve_left fun heq => hfirst heq.symm)
      exact ⟨t, rest', hawaits, by rw [history, since_cons_of_ne hfirst, hsince], hafter⟩

/-- For a listener that has not left, the signals that it received since its subscription, those
that it was told that it missed and those that it has not seen yet are as many as were sent since,
through any clone. It finds nothing only if there is nothing that it has not seen; otherwise, by
looking twice at most, it receives the latest signal and hears of all others. -/
theorem signals_accounted (s : Shutdown) (actions : List Action) (i : Nat)
    (hsubscribed : .subscribed i ∈ s.history actions)
    (hlive : .dropped i ∉ since i (s.history actions)) :
    let es := since i (s.history actions)
    let t := s.performAll actions
    let looks := t.history [.receive i, .receive i]
    ∃ unseen, t.unseen? i = some unseen ∧
      signals i es + missed i es + unseen = triggers es ∧
      ((t.receive i).1 = .empty ↔ unseen = 0) ∧
      signals i looks = min unseen 1 ∧ missed i looks = unseen - 1 ∧
      (t.performAll [.receive i, .receive i]).unseen? i = some 0 := by
  intro es t looks
  obtain ⟨start, rest, hstart, hsince, hafter⟩ := exists_subscription hsubscribed
  have hrest : .dropped i ∉ start.history rest := hsince ▸ hlive
  obtain ⟨unseen, hawaits, hbalance⟩ := hstart.performAll hrest
  rw [← hafter] at hawaits
  rw [← hsince, Nat.zero_add] at hbalance
  obtain ⟨hsignals, hmissed, hnone⟩ := hawaits.receive_twice
  exact ⟨unseen, hawaits.unseen?_eq, hbalance, hawaits.receive_eq_empty_iff, hsignals, hmissed,
    hnone.unseen?_eq⟩

/-- A listener that subscribed between two signals and looked after two more is one late. -/
theorem signals_accounted_late :
    let actions : List Action :=
      [.subscribe 0, .trigger 0, .subscribe 1, .trigger 1, .trigger 0, .receive 1]
    let es := since 1 (history {} actions)
    signals 1 es + missed 1 es + 1 = triggers es ∧ triggers es = 2 := by
  intro actions es
  obtain ⟨unseen, hunseen, hbalance, -⟩ := signals_accounted {} actions 1 (by decide) (by decide)
  obtain rfl : unseen = 1 := by simpa [eq_comm] using hunseen.symm.trans (by decide : _ = some 1)
  exact ⟨hbalance, by decide⟩

end Signpost.Shutdown
