import Signpost.Proofs.Regex.Matching
import Mathlib.Data.List.Forall2

/-!
# The search finds what there is to find

A search ends with a thread that a run leads to (`search_eq_some`), and it fails only if nothing
matches (`isSome_search_iff`): when no start is left, the pairs of address and position that were
entered are closed under steps and accept nowhere (`Settled`).
-/

namespace Signpost.Regex

/-! ## Programs that stay inside themselves -/

namespace Instr

/-- The addresses at which a run may go on. -/
def targets : Instr → List Nat
  | .char _ next | .look _ next | .save _ next | .jump next => [next]
  | .split first second => [first, second]
  | .accept => []

theorem mem_targets_split {greedy : Bool} {first second a : Nat} :
    a ∈ targets (if greedy then .split first second else .split second first) ↔
      a = first ∨ a = second := by
  cases greedy <;> simp [targets, or_comm]

end Instr

/-- Every instruction goes on inside the program. -/
def Bounded (program : Array Instr) : Prop :=
  ∀ (pc : Nat) (instr : Instr), program[pc]? = some instr → ∀ a ∈ instr.targets, a < program.size

namespace Node

theorem size_pos (n : Node) : 0 < n.size := by
  cases n with
  | seq a b => exact Nat.add_pos_left a.size_pos b.size
  | _ => simp [size]

theorem targets_code (n : Node) : ∀ base next, ∀ instr ∈ n.code base next, ∀ a ∈ instr.targets,
    a < base + n.size ∨ a = next := by
  induction n with
  | empty => simp [code, Instr.targets]
  | set => simp [code, Instr.targets]
  | look => simp [code, Instr.targets]
  | capture index body ih =>
    intro base next instr hmem a ha
    simp only [code, List.mem_cons, List.mem_append, List.not_mem_nil, or_false] at hmem
    obtain rfl | hmem | rfl := hmem
    · simp only [Instr.targets, List.mem_singleton] at ha
      simp only [size]
      omega
    · have := ih _ _ _ hmem a ha
      simp only [size]
      omega
    · exact .inr (List.mem_singleton.mp ha)
  | seq x y ihx ihy =>
    intro base next instr hmem a ha
    simp only [code, List.mem_append] at hmem
    simp only [size]
    obtain hmem | hmem := hmem
    · have := ihx _ _ _ hmem a ha
      have := y.size_pos
      omega
    · have := ihy _ _ _ hmem a ha
      omega
  | alt x y ihx ihy =>
    intro base next instr hmem a ha
    simp only [code, List.mem_cons, List.mem_append] at hmem
    simp only [size]
    obtain rfl | hmem | hmem := hmem
    · have := y.size_pos
      simp only [Instr.targets, List.mem_cons, List.not_mem_nil, or_false] at ha
      omega
    · have := ihx _ _ _ hmem a ha
      omega
    · have := ihy _ _ _ hmem a ha
      omega
  | star greedy body ih =>
    intro base next instr hmem a ha
    simp only [code, List.mem_cons] at hmem
    simp only [size]
    have := body.size_pos
    obtain rfl | hmem := hmem
    · rw [Instr.mem_targets_split] at ha
      omega
    · have := ih _ _ _ hmem a ha
      omega
  | plus greedy body ih =>
    intro base next instr hmem a ha
    simp only [code, List.mem_append, List.mem_singleton] at hmem
    simp only [size]
    have := body.size_pos
    obtain hmem | rfl := hmem
    · have := ih _ _ _ hmem a ha
      omega
    · rw [Instr.mem_targets_split] at ha
      omega

theorem program_size (n : Node) : n.program.size = n.size + 3 := by
  simp [program, size]

/-- The program holds the code of its node, and accepts after it. -/
theorem placed_program (n : Node) :
    Placed n.program 0 ((capture 0 n).code 0 (n.size + 2)) ∧
      n.program[n.size + 2]? = some .accept := by
  have hcode : Placed n.program 0 ((capture 0 n).code 0 (n.size + 2) ++ [.accept]) := by
    intro k instr hk
    rw [Nat.zero_add, program, List.getElem?_toArray]
    exact hk
  rw [Placed.append_iff, Placed.singleton_iff, length_code, Nat.zero_add] at hcode
  exact hcode

theorem bounded_program (n : Node) : Bounded n.program := by
  intro pc instr hpc a ha
  rw [program_size]
  rw [program, List.getElem?_toArray] at hpc
  have hmem := List.mem_of_getElem? hpc
  simp only [List.mem_append, List.mem_singleton] at hmem
  obtain hmem | rfl := hmem
  · have := targets_code _ _ _ _ hmem a ha
    simp only [size] at this
    omega
  · cases ha

end Node

/-! ## Threads in bounds -/

namespace Thread

variable {program : Array Instr} {text : Array Char} {t u : Thread}

/-- The threads stand at the same address and at the same position. -/
structure SamePlace (t u : Thread) : Prop where
  pc_eq : t.pc = u.pc
  pos_eq : t.pos = u.pos

/-- The thread stands at an address of the program and at a position of the text. -/
structure Valid (program : Array Instr) (text : Array Char) (t : Thread) : Prop where
  pc_lt : t.pc < program.size
  pos_le : t.pos ≤ text.size

theorem Valid.key_lt (h : t.Valid program text) :
    t.key program < (text.size + 1) * program.size := by
  calc t.pos * program.size + t.pc
    _ < t.pos * program.size + program.size := Nat.add_lt_add_left h.pc_lt _
    _ = (t.pos + 1) * program.size := (Nat.succ_mul _ _).symm
    _ ≤ (text.size + 1) * program.size := Nat.mul_le_mul_right _ (Nat.succ_le_succ h.pos_le)

/-- Different pairs of address and position have different numbers. -/
theorem Valid.samePlace_of_key_eq (ht : t.Valid program text) (hu : u.Valid program text)
    (h : t.key program = u.key program) : SamePlace t u := by
  unfold key at h
  have hpc : (t.pos * program.size + t.pc) % program.size = t.pc := by
    rw [Nat.mul_add_mod_self_right, Nat.mod_eq_of_lt ht.pc_lt]
  have hpc' : (u.pos * program.size + u.pc) % program.size = u.pc := by
    rw [Nat.mul_add_mod_self_right, Nat.mod_eq_of_lt hu.pc_lt]
  have heq : t.pc = u.pc := by rw [← hpc, ← hpc', h]
  refine ⟨heq, Nat.eq_of_mul_eq_mul_right (Nat.zero_lt_of_lt ht.pc_lt) ?_⟩
  omega

/-- A step goes to a target of the instruction and stays or takes a character. -/
theorem exists_of_mem_next (hu : u ∈ t.next program text) :
    ∃ instr, program[t.pc]? = some instr ∧ u.pc ∈ instr.targets ∧
      (u.pos = t.pos ∨ u.pos = t.pos + 1 ∧ t.pos < text.size) := by
  unfold Thread.next at hu
  split at hu
  · rename_i s next hpc
    split at hu
    · rename_i hany
      obtain ⟨c, hc, -⟩ := (Option.any_eq_true _ _).mp hany
      obtain rfl := List.mem_singleton.mp hu
      obtain ⟨hlt, -⟩ := Array.getElem?_eq_some_iff.mp hc
      exact ⟨_, hpc, by simp [Instr.targets], .inr ⟨rfl, hlt⟩⟩
    · cases hu
  · rename_i l next hpc
    split at hu
    · obtain rfl := List.mem_singleton.mp hu
      exact ⟨_, hpc, by simp [Instr.targets], .inl rfl⟩
    · cases hu
  · rename_i hpc
    obtain rfl := List.mem_singleton.mp hu
    exact ⟨_, hpc, by simp [Instr.targets], .inl rfl⟩
  · rename_i hpc
    simp only [List.mem_cons, List.not_mem_nil, or_false] at hu
    obtain rfl | rfl := hu <;> exact ⟨_, hpc, by simp [Instr.targets], .inl rfl⟩
  · rename_i hpc
    obtain rfl := List.mem_singleton.mp hu
    exact ⟨_, hpc, by simp [Instr.targets], .inl rfl⟩
  · cases hu
  · cases hu

theorem Valid.next (hbounded : Bounded program) (h : t.Valid program text)
    (hu : u ∈ t.next program text) : u.Valid program text := by
  obtain ⟨instr, hpc, htarget, hpos⟩ := exists_of_mem_next hu
  refine ⟨hbounded _ _ hpc _ htarget, ?_⟩
  have := h.pos_le
  omega

theorem exists_mem_of_forall₂ {α : Type} {R : α → α → Prop} {l l' : List α} {a : α}
    (h : List.Forall₂ R l l') (ha : a ∈ l) : ∃ b ∈ l', R a b := by
  induction h with
  | nil => cases ha
  | cons hfirst _ ih =>
    obtain rfl | ha := List.mem_cons.mp ha
    · exact ⟨_, List.mem_cons_self, hfirst⟩
    · obtain ⟨b, hb, hab⟩ := ih ha
      exact ⟨b, List.mem_cons_of_mem _ hb, hab⟩

namespace SamePlace

theorem symm (h : SamePlace t u) : SamePlace u t := ⟨h.pc_eq.symm, h.pos_eq.symm⟩

theorem key_eq (h : SamePlace t u) : t.key program = u.key program := by
  rw [key, key, h.pc_eq, h.pos_eq]

theorem accepts_eq (h : SamePlace t u) : t.accepts program = u.accepts program := by
  rw [accepts, accepts, h.pc_eq]

/-- The steps of a thread depend on its address and its position only. -/
theorem forall₂_next (h : SamePlace t u) :
    List.Forall₂ SamePlace (t.next program text) (u.next program text) := by
  obtain ⟨pc, pos, slots⟩ := t
  obtain ⟨pc', pos', slots'⟩ := u
  obtain ⟨hpc, hpos⟩ := h
  obtain rfl : pc = pc' := hpc
  obtain rfl : pos = pos' := hpos
  have hnext : ∀ pc pos, SamePlace ⟨pc, pos, slots⟩ ⟨pc, pos, slots'⟩ := fun _ _ => ⟨rfl, rfl⟩
  unfold Thread.next
  cases program[pc]? with
  | none => exact .nil
  | some instr =>
    cases instr with
    | char s next =>
      dsimp only
      split
      · exact .cons (hnext _ _) .nil
      · exact .nil
    | look l next =>
      have hbefore : before ⟨pc, pos, slots'⟩ text = before ⟨pc, pos, slots⟩ text := rfl
      simp only [hbefore]
      split
      · exact .cons (hnext _ _) .nil
      · exact .nil
    | save => exact .cons ⟨rfl, rfl⟩ .nil
    | split => exact .cons (hnext _ _) (.cons (hnext _ _) .nil)
    | jump => exact .cons (hnext _ _) .nil
    | accept => exact .nil

theorem exists_mem_next (h : SamePlace t u) {v : Thread} (hv : v ∈ t.next program text) :
    ∃ v' ∈ u.next program text, SamePlace v v' :=
  exists_mem_of_forall₂ h.forall₂_next hv

end SamePlace

end Thread

/-! ## What is left when nothing was found -/

section Exploration

variable {program : Array Instr} {text : Array Char}

/-- The pair of the thread has been entered. -/
def Marked (program : Array Instr) (seen : Array Bool) (t : Thread) : Prop :=
  seen[t.key program]? = some true

/-- The thread does not accept, and all that may follow it has been entered. -/
def Spent (program : Array Instr) (text : Array Char) (seen : Array Bool) (t : Thread) : Prop :=
  t.accepts program = false ∧ ∀ u ∈ t.next program text, Marked program seen u

/-- All pairs that were entered are done with. -/
def Settled (program : Array Instr) (text : Array Char) (seen : Array Bool) : Prop :=
  ∀ t : Thread, t.Valid program text → Marked program seen t → Spent program text seen t

theorem Spent.congr {seen : Array Bool} {t u : Thread} (hplace : t.SamePlace u)
    (h : Spent program text seen t) : Spent program text seen u := by
  obtain ⟨haccepts, hnext⟩ := h
  refine ⟨hplace.accepts_eq ▸ haccepts, fun v hv => ?_⟩
  obtain ⟨v', hv', hplace'⟩ := hplace.symm.exists_mem_next hv
  have hmarked := hnext v' hv'
  rwa [Marked, ← hplace'.key_eq] at hmarked

/-- What an exploration that finds nothing does to the marks: it enters all that waits, and it is
done with all that it enters. -/
structure Swept (program : Array Instr) (text : Array Char) (todo : List Thread)
    (seen seen' : Array Bool) : Prop where
  size : seen'.size = seen.size
  keeps : ∀ k : Nat, seen[k]? = some true → seen'[k]? = some true
  marked : ∀ t ∈ todo, Marked program seen' t
  spent : ∀ t : Thread, t.Valid program text → Marked program seen' t →
    Marked program seen t ∨ Spent program text seen' t

namespace Swept

variable {todo : List Thread} {seen seen' : Array Bool} {t : Thread}

theorem nil (seen : Array Bool) : Swept program text [] seen seen :=
  ⟨rfl, fun _ hk => hk, nofun, fun _ _ ht => .inl ht⟩

/-- The first thread has been entered before. -/
theorem skip (ht : Marked program seen t) (h : Swept program text todo seen seen') :
    Swept program text (t :: todo) seen seen' where
  size := h.size
  keeps := h.keeps
  marked := List.forall_mem_cons.mpr ⟨h.keeps _ ht, h.marked⟩
  spent := h.spent

/-- The first thread is entered, and what may follow it comes before what waits. -/
theorem enter (ht : t.Valid program text) (haccepts : t.accepts program = false)
    (hlt : t.key program < seen.size)
    (h : Swept program text (t.next program text ++ todo) (seen.set (t.key program) true) seen') :
    Swept program text (t :: todo) seen seen' := by
  have hkept : ∀ k : Nat, seen[k]? = some true →
      (seen.set (t.key program) true hlt)[k]? = some true := by
    intro k hk
    rw [Array.getElem?_set]
    split
    · rfl
    · exact hk
  have hself : Marked program seen' t := h.keeps _ (by simp)
  have hspent : Spent program text seen' t :=
    ⟨haccepts, fun u hu => h.marked u (List.mem_append_left _ hu)⟩
  refine ⟨by simpa using h.size, fun k hk => h.keeps k (hkept k hk),
    List.forall_mem_cons.mpr ⟨hself, fun u hu => h.marked u (List.mem_append_right _ hu)⟩, ?_⟩
  intro u hu hmarked
  obtain hset | hspent' := h.spent u hu hmarked
  · by_cases hkey : t.key program = u.key program
    · exact .inr (hspent.congr (ht.samePlace_of_key_eq hu hkey))
    · rw [Marked, Array.getElem?_set_ne _ hkey] at hset
      exact .inl hset
  · exact .inr hspent'

end Swept

theorem explore_eq_none (hbounded : Bounded program) {todo : List Thread} {seen seen' : Array Bool}
    (h : explore program text todo seen = (none, seen'))
    (hsize : seen.size = (text.size + 1) * program.size)
    (hvalid : ∀ t ∈ todo, t.Valid program text) : Swept program text todo seen seen' := by
  fun_induction explore program text todo seen
  case case1 seen =>
    obtain rfl : seen = seen' := congrArg Prod.snd h
    exact .nil seen
  case case2 => cases h
  case case3 t todo seen hlt hnew haccepts ih =>
    obtain ⟨ht, htodo⟩ := List.forall_mem_cons.mp hvalid
    refine .enter ht (Bool.eq_false_iff.mpr haccepts) hlt (ih h (by simpa using hsize) ?_)
    intro u hu
    obtain hu | hu := List.mem_append.mp hu
    · exact ht.next hbounded hu
    · exact htodo u hu
  case case4 t todo seen hlt hold ih =>
    have hmarked : Marked program seen t := by simpa [Marked, hlt] using hold
    exact .skip hmarked (ih h hsize fun u hu => hvalid u (List.mem_cons_of_mem _ hu))
  case case5 t todo seen hlt ih =>
    have hkey := (hvalid t List.mem_cons_self).key_lt
    exact absurd (hsize ▸ hkey) hlt

/-- Runs from entered pairs stay among entered pairs. -/
theorem Settled.of_steps {seen : Array Bool} (h : Settled program text seen)
    (hbounded : Bounded program) {n : Nat} {t u : Thread} (hsteps : t.Steps program text n u)
    (ht : t.Valid program text) (hmarked : Marked program seen t) : u.accepts program = false := by
  induction hsteps with
  | refl => exact (h _ ht hmarked).1
  | step hnext _ ih => exact ih (ht.next hbounded hnext) ((h _ ht hmarked).2 _ hnext)

theorem exploreFrom_eq_none (hbounded : Bounded program) {starts : List Nat} :
    ∀ {seen : Array Bool}, exploreFrom program text starts seen = none →
      seen.size = (text.size + 1) * program.size → Settled program text seen →
      (∀ i ∈ starts, Thread.Valid program text ⟨0, i, []⟩) →
        ∃ seen', Settled program text seen' ∧
          (∀ k : Nat, seen[k]? = some true → seen'[k]? = some true) ∧
          ∀ i ∈ starts, Marked program seen' ⟨0, i, []⟩ := by
  induction starts with
  | nil => exact fun {seen} _ _ hsettled _ => ⟨seen, hsettled, fun _ hk => hk, nofun⟩
  | cons i starts ih =>
    intro seen h hsize hsettled hvalid
    rw [exploreFrom] at h
    split at h
    · cases h
    · rename_i seen₁ hexplore
      obtain ⟨hi, hstarts⟩ := List.forall_mem_cons.mp hvalid
      have hswept := explore_eq_none hbounded hexplore hsize (List.forall_mem_singleton.mpr hi)
      -- what was settled before stays so, because marks are never taken back
      have hall : Settled program text seen₁ := by
        intro t ht hmarked
        obtain hold | hspent := hswept.spent t ht hmarked
        · obtain ⟨haccepts, hnext⟩ := hsettled t ht hold
          exact ⟨haccepts, fun u hu => hswept.keeps _ (hnext u hu)⟩
        · exact hspent
      obtain ⟨seen', hsettled', hkeeps', hmarked⟩ := ih h (hswept.size.trans hsize) hall hstarts
      have hstart := hkeeps' _ (hswept.marked _ List.mem_cons_self)
      exact ⟨seen', hsettled', fun k hk => hkeeps' k (hswept.keeps k hk),
        List.forall_mem_cons.mpr ⟨hstart, hmarked⟩⟩

/-! ## What was found -/

theorem explore_eq_some {todo : List Thread} {seen seen' : Array Bool} {t : Thread}
    (h : explore program text todo seen = (some t, seen')) :
    t.accepts program = true ∧ ∃ s ∈ todo, ∃ n, s.Steps program text n t := by
  fun_induction explore program text todo seen
  case case1 => cases h
  case case2 s todo seen hlt hnew haccepts =>
    obtain rfl : s = t := Option.some.inj (congrArg Prod.fst h)
    exact ⟨haccepts, s, List.mem_cons_self, 0, .refl s⟩
  case case3 s todo seen hlt hnew haccepts ih =>
    obtain ⟨haccepted, u, hu, n, hsteps⟩ := ih h
    refine ⟨haccepted, ?_⟩
    obtain hu | hu := List.mem_append.mp hu
    · exact ⟨s, List.mem_cons_self, n + 1, .step hu hsteps⟩
    · exact ⟨u, List.mem_cons_of_mem _ hu, n, hsteps⟩
  case case4 ih | case5 ih =>
    obtain ⟨haccepted, u, hu, hsteps⟩ := ih h
    exact ⟨haccepted, u, List.mem_cons_of_mem _ hu, hsteps⟩

theorem exploreFrom_eq_some {starts : List Nat} {t : Thread} :
    ∀ {seen : Array Bool}, exploreFrom program text starts seen = some t →
      t.accepts program = true ∧ ∃ i ∈ starts, ∃ n, Thread.Steps program text n ⟨0, i, []⟩ t := by
  induction starts with
  | nil => exact fun h => by cases h
  | cons i starts ih =>
    intro seen h
    rw [exploreFrom] at h
    split at h
    · rename_i hexplore
      obtain rfl := Option.some.inj h
      obtain ⟨haccepts, s, hs, hsteps⟩ := explore_eq_some hexplore
      obtain rfl := List.mem_singleton.mp hs
      exact ⟨haccepts, i, List.mem_cons_self, hsteps⟩
    · obtain ⟨haccepts, j, hj, hsteps⟩ := ih h
      exact ⟨haccepts, j, List.mem_cons_of_mem _ hj, hsteps⟩

end Exploration

/-! ## Searches for a node -/

section Node

variable {n : Node} {text : Array Char}

/-- What a search finds is a match of the node, with the positions that the match stores between
those of the match itself. -/
theorem search_eq_some {t : Thread} (h : search n.program text = some t) :
    ∃ i w, i ≤ text.size ∧ n.Matches text i t.pos w ∧
      t.slots = (1, t.pos) :: (w ++ [(0, i)]) := by
  obtain ⟨haccepts, i, hi, m, hsteps⟩ := exploreFrom_eq_some h
  obtain ⟨hcode, haccept⟩ := n.placed_program
  obtain ⟨j, w, m', hmatch, -, hend⟩ :=
    (Node.capture 0 n).leaves 0 (n.size + 2) m i [] t hcode hsteps haccepts
  have hdone : Thread.next n.program text ⟨n.size + 2, j, w ++ []⟩ = [] := by
    simp [Thread.next, haccept]
  cases hend with
  | step hnext => rw [hdone] at hnext; cases hnext
  | refl =>
    cases hmatch with
    | capture hbody =>
      exact ⟨i, _, Nat.le_of_lt_succ (List.mem_range.mp hi), hbody, by simp⟩

/-- A search succeeds exactly if the node matches somewhere in the text. -/
theorem isSome_search_iff :
    (search n.program text).isSome = true ↔ ∃ i j w, i ≤ text.size ∧ n.Matches text i j w := by
  constructor
  · intro h
    obtain ⟨t, ht⟩ := Option.isSome_iff_exists.mp h
    obtain ⟨i, w, hi, hmatch, -⟩ := search_eq_some ht
    exact ⟨i, t.pos, w, hi, hmatch⟩
  · rintro ⟨i, j, w, hi, hmatch⟩
    cases hsearch : search n.program text with
    | some t => rfl
    | none =>
      have hbounded := n.bounded_program
      have hsize := n.program_size
      obtain ⟨hcode, haccept⟩ := n.placed_program
      obtain ⟨m, hsteps⟩ := Node.steps_of_matches hmatch.capture 0 (n.size + 2) [] hcode
      have hvalid : ∀ i ∈ List.range (text.size + 1), Thread.Valid n.program text ⟨0, i, []⟩ :=
        fun i hi => ⟨by simp [hsize], Nat.le_of_lt_succ (List.mem_range.mp hi)⟩
      have hfresh : Settled n.program text
          (Array.replicate ((text.size + 1) * n.program.size) false) := by
        intro t _ hmarked
        simp [Marked, Array.getElem?_replicate] at hmarked
      obtain ⟨seen, hsettled, -, hstarts⟩ :=
        exploreFrom_eq_none hbounded hsearch (by simp) hfresh hvalid
      have hstart := List.mem_range.mpr (Nat.lt_succ_of_le hi)
      have hrejects := hsettled.of_steps hbounded hsteps (hvalid i hstart) (hstarts i hstart)
      simp [Thread.accepts, haccept] at hrejects

end Node

end Signpost.Regex
