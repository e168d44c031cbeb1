import Signpost.Regex.Search

/-!
# What the code of a node matches

`Node.Matches` says which parts of a text a node matches, and what it stores on the way, without any
machine. The code of a node does the same: a run of the machine leads from its start to the address
after it exactly along such a match (`Node.steps_of_matches`, `Node.matches_of_steps`), wherever the
code is placed in a program.
-/

namespace Signpost.Regex

/-! ## Matches -/

/-- The character before the position. -/
def before? (text : Array Char) (i : Nat) : Option Char := if i = 0 then none else text[i - 1]?

namespace Node

/-- `n.Matches text i j w`: the node matches the text from `i` to `j`, and `w` are the positions
that it stores, the latest first. -/
inductive Matches (text : Array Char) : Node → Nat → Nat → List (Nat × Nat) → Prop
  | empty {i : Nat} : Matches text .empty i i []
  | set {s : Unicode.CharSet} {i : Nat} {c : Char} (hc : text[i]? = some c)
      (hs : s.contains c = true) : Matches text (.set s) i (i + 1) []
  | look {l : Look} {i : Nat} (h : l.holds (before? text i) text[i]? = true) :
      Matches text (.look l) i i []
  | capture {index : Nat} {body : Node} {i j : Nat} {w : List (Nat × Nat)}
      (h : Matches text body i j w) :
      Matches text (.capture index body) i j ((2 * index + 1, j) :: (w ++ [(2 * index, i)]))
  | seq {a b : Node} {i j k : Nat} {w w' : List (Nat × Nat)} (ha : Matches text a i j w)
      (hb : Matches text b j k w') : Matches text (.seq a b) i k (w' ++ w)
  | first {a b : Node} {i j : Nat} {w : List (Nat × Nat)} (h : Matches text a i j w) :
      Matches text (.alt a b) i j w
  | second {a b : Node} {i j : Nat} {w : List (Nat × Nat)} (h : Matches text b i j w) :
      Matches text (.alt a b) i j w
  | none {greedy : Bool} {body : Node} {i : Nat} : Matches text (.star greedy body) i i []
  | more {greedy : Bool} {body : Node} {i j k : Nat} {w w' : List (Nat × Nat)}
      (h : Matches text body i j w) (hrest : Matches text (.star greedy body) j k w') :
      Matches text (.star greedy body) i k (w' ++ w)
  | once {greedy : Bool} {body : Node} {i j : Nat} {w : List (Nat × Nat)}
      (h : Matches text body i j w) : Matches text (.plus greedy body) i j w
  | again {greedy : Bool} {body : Node} {i j k : Nat} {w w' : List (Nat × Nat)}
      (h : Matches text body i j w) (hrest : Matches text (.plus greedy body) j k w') :
      Matches text (.plus greedy body) i k (w' ++ w)

end Node

/-! ## Runs -/

namespace Thread

@[simp]
theorem before_mk (text : Array Char) (pc i : Nat) (w : List (Nat × Nat)) :
    before ⟨pc, i, w⟩ text = before? text i := rfl

/-- `Steps program text n t u`: a run of `n` steps leads from `t` to `u`. -/
inductive Steps (program : Array Instr) (text : Array Char) : Nat → Thread → Thread → Prop
  | refl (t : Thread) : Steps program text 0 t t
  | step {t u v : Thread} {n : Nat} (h : u ∈ t.next program text)
      (hrest : Steps program text n u v) : Steps program text (n + 1) t v

namespace Steps

variable {program : Array Instr} {text : Array Char} {t u v : Thread} {m n : Nat}

theorem single (h : u ∈ t.next program text) : Steps program text 1 t u := .step h (.refl u)

theorem trans (h : Steps program text m t u) (h' : Steps program text n u v) :
    Steps program text (m + n) t v := by
  induction h with
  | refl => rwa [Nat.zero_add]
  | step h _ ih =>
    rw [Nat.add_right_comm]
    exact .step h (ih h')

/-- A run to a thread that accepts goes on where it does not accept yet. -/
theorem exists_next (h : Steps program text n t v) (ht : t.accepts program = false)
    (hv : v.accepts program = true) :
    ∃ m u, n = m + 1 ∧ u ∈ t.next program text ∧ Steps program text m u v := by
  cases h with
  | refl => rw [ht] at hv; cases hv
  | step h hrest => exact ⟨_, _, rfl, h, hrest⟩

section Instruction

variable {pc i slot next first second : Nat} {w : List (Nat × Nat)}

theorem save (hpc : program[pc]? = some (.save slot next)) :
    Steps program text 1 ⟨pc, i, w⟩ ⟨next, i, (slot, i) :: w⟩ :=
  .single (by simp [Thread.next, hpc])

theorem of_save (hpc : program[pc]? = some (.save slot next))
    (h : Steps program text n ⟨pc, i, w⟩ v) (hv : v.accepts program = true) :
    ∃ m, n = m + 1 ∧ Steps program text m ⟨next, i, (slot, i) :: w⟩ v := by
  obtain ⟨m, u, rfl, hu, hrest⟩ := h.exists_next (by simp [Thread.accepts, hpc]) hv
  simp only [Thread.next, hpc, List.mem_singleton] at hu
  subst hu
  exact ⟨m, rfl, hrest⟩

/-- Both ways are open at a split, whichever is preferred. -/
theorem split (greedy : Bool) (hpc : program[pc]? =
      some (if greedy then .split first second else .split second first)) :
    Steps program text 1 ⟨pc, i, w⟩ ⟨first, i, w⟩ ∧
      Steps program text 1 ⟨pc, i, w⟩ ⟨second, i, w⟩ := by
  refine ⟨.single ?_, .single ?_⟩ <;> cases greedy <;> simp [Thread.next, hpc]

theorem of_split (greedy : Bool) (hpc : program[pc]? =
      some (if greedy then .split first second else .split second first))
    (h : Steps program text n ⟨pc, i, w⟩ v) (hv : v.accepts program = true) :
    ∃ m, n = m + 1 ∧
      (Steps program text m ⟨first, i, w⟩ v ∨ Steps program text m ⟨second, i, w⟩ v) := by
  have hsplit : Thread.accepts program ⟨pc, i, w⟩ = false := by
    cases greedy <;> simp [Thread.accepts, hpc]
  obtain ⟨m, u, rfl, hu, hrest⟩ := h.exists_next hsplit hv
  have hcases : u = ⟨first, i, w⟩ ∨ u = ⟨second, i, w⟩ := by
    cases greedy <;> simpa [Thread.next, hpc, or_comm] using hu
  obtain rfl | rfl := hcases
  · exact ⟨m, rfl, .inl hrest⟩
  · exact ⟨m, rfl, .inr hrest⟩

end Instruction

end Steps

end Thread

/-! ## Placed code -/

/-- The code stands in the program from the address `base` on. -/
def Placed (program : Array Instr) (base : Nat) (code : List Instr) : Prop :=
  ∀ k instr, code[k]? = some instr → program[base + k]? = some instr

namespace Placed

variable {program : Array Instr} {base : Nat} {instr : Instr} {code code' : List Instr}

theorem cons_iff : Placed program base (instr :: code) ↔
    program[base]? = some instr ∧ Placed program (base + 1) code := by
  constructor
  · intro h
    refine ⟨h 0 instr rfl, fun k x hk => ?_⟩
    rw [Nat.add_right_comm]
    exact h (k + 1) x hk
  · rintro ⟨hhead, hrest⟩ k x hk
    cases k with
    | zero => rwa [← Option.some.inj hk]
    | succ k =>
      have hx := hrest k x hk
      rwa [Nat.add_right_comm] at hx

theorem append_iff : Placed program base (code ++ code') ↔
    Placed program base code ∧ Placed program (base + code.length) code' := by
  induction code generalizing base with
  | nil => simp [Placed]
  | cons x rest ih =>
    rw [List.cons_append, cons_iff, cons_iff, ih, List.length_cons, and_assoc,
      Nat.add_assoc, Nat.add_comm 1]

theorem singleton_iff : Placed program base [instr] ↔ program[base]? = some instr := by
  rw [cons_iff, and_iff_left]
  intro k x hk
  cases hk

end Placed

/-! ## The code of a node matches what the node matches -/

namespace Node

variable {program : Array Instr} {text : Array Char}

open Thread (Steps)

/-- Along a match, a run leads through the code. -/
theorem steps_of_matches {n : Node} {i j : Nat} {w : List (Nat × Nat)} (h : n.Matches text i j w) :
    ∀ base next u, Placed program base (n.code base next) →
      ∃ m, Steps program text m ⟨base, i, u⟩ ⟨next, j, w ++ u⟩ := by
  induction h with
  | empty =>
    intro base next u hcode
    rw [code, Placed.singleton_iff] at hcode
    exact ⟨1, .single (by simp [Thread.next, hcode])⟩
  | set hc hs =>
    intro base next u hcode
    rw [code, Placed.singleton_iff] at hcode
    exact ⟨1, .single (by simp [Thread.next, hcode, hc, hs])⟩
  | look h =>
    intro base next u hcode
    rw [code, Placed.singleton_iff] at hcode
    exact ⟨1, .single (by simp [Thread.next, hcode, h])⟩
  | @capture index body i j w h ih =>
    intro base next u hcode
    rw [code, Placed.cons_iff, Placed.append_iff, Placed.singleton_iff, length_code] at hcode
    obtain ⟨hopen, hbody, hclose⟩ := hcode
    obtain ⟨m, hsteps⟩ := ih (base + 1) _ ((2 * index, i) :: u) hbody
    have hopened : Steps program text 1 ⟨base, i, u⟩ _ := .save hopen
    exact ⟨_, by simpa using (hopened.trans hsteps).trans (.save hclose)⟩
  | seq _ _ iha ihb =>
    intro base next u hcode
    rw [code, Placed.append_iff, length_code] at hcode
    obtain ⟨m, ha⟩ := iha _ _ u hcode.1
    obtain ⟨m', hb⟩ := ihb _ _ _ hcode.2
    exact ⟨_, by simpa using ha.trans hb⟩
  | first _ ih =>
    intro base next u hcode
    rw [code, Placed.cons_iff, Placed.append_iff] at hcode
    obtain ⟨m, hsteps⟩ := ih _ _ u hcode.2.1
    exact ⟨_, (Steps.split true hcode.1).1.trans hsteps⟩
  | second _ ih =>
    intro base next u hcode
    rw [code, Placed.cons_iff, Placed.append_iff, length_code] at hcode
    obtain ⟨m, hsteps⟩ := ih _ _ u hcode.2.2
    exact ⟨_, (Steps.split true hcode.1).2.trans hsteps⟩
  | none =>
    intro base next u hcode
    rw [code, Placed.cons_iff] at hcode
    exact ⟨1, (Steps.split _ hcode.1).2⟩
  | more _ _ ih ihrest =>
    intro base next u hcode
    obtain ⟨m', hrest⟩ := ihrest base next _ hcode
    rw [code, Placed.cons_iff] at hcode
    obtain ⟨m, hbody⟩ := ih _ _ u hcode.2
    exact ⟨_, by simpa using ((Steps.split _ hcode.1).1.trans hbody).trans hrest⟩
  | once _ ih =>
    intro base next u hcode
    rw [code, Placed.append_iff, Placed.singleton_iff, length_code] at hcode
    obtain ⟨m, hbody⟩ := ih _ _ u hcode.1
    exact ⟨_, hbody.trans (Steps.split _ hcode.2).2⟩
  | again _ _ ih ihrest =>
    intro base next u hcode
    obtain ⟨m', hrest⟩ := ihrest base next _ hcode
    rw [code, Placed.append_iff, Placed.singleton_iff, length_code] at hcode
    obtain ⟨m, hbody⟩ := ih _ _ u hcode.1
    exact ⟨_, by simpa using (hbody.trans (Steps.split _ hcode.2).1).trans hrest⟩

/-- A run to the end that starts in the code of the node leaves the code after a match of the node.
-/
def Leaves (program : Array Instr) (text : Array Char) (n : Node) : Prop :=
  ∀ base next m i u t, Placed program base (n.code base next) →
    Steps program text m ⟨base, i, u⟩ t → t.accepts program = true →
      ∃ j w m', n.Matches text i j w ∧ m' < m ∧ Steps program text m' ⟨next, j, w ++ u⟩ t

theorem leaves_star {greedy : Bool} {body : Node} (hbody : Leaves program text body) :
    Leaves program text (.star greedy body) := by
  intro base next m
  -- each round takes the split at the start, so the rest of the run is shorter
  induction m using Nat.strongRecOn with
  | _ m ih =>
    intro i u t hcode hsteps ht
    have hplaced := hcode
    rw [code, Placed.cons_iff] at hcode
    obtain ⟨m, rfl, hround | hrest⟩ := hsteps.of_split _ hcode.1 ht
    · obtain ⟨j, w, m', hmatch, hlt, hback⟩ := hbody _ _ _ _ _ _ hcode.2 hround ht
      obtain ⟨k, w', m'', hmore, hlt', hleft⟩ := ih m' (by omega) j (w ++ u) t hplaced hback ht
      exact ⟨k, w' ++ w, m'', .more hmatch hmore, by omega, by simpa using hleft⟩
    · exact ⟨i, [], m, .none, Nat.lt_succ_self m, hrest⟩

theorem leaves_plus {greedy : Bool} {body : Node} (hbody : Leaves program text body) :
    Leaves program text (.plus greedy body) := by
  intro base next m
  induction m using Nat.strongRecOn with
  | _ m ih =>
    intro i u t hcode hsteps ht
    have hplaced := hcode
    rw [code, Placed.append_iff, Placed.singleton_iff, length_code] at hcode
    obtain ⟨j, w, m', hmatch, hlt, hround⟩ := hbody _ _ _ _ _ _ hcode.1 hsteps ht
    obtain ⟨m', rfl, hback | hrest⟩ := hround.of_split _ hcode.2 ht
    · obtain ⟨k, w', m'', hmore, hlt', hleft⟩ := ih m' (by omega) j (w ++ u) t hplaced hback ht
      exact ⟨k, w' ++ w, m'', .again hmatch hmore, by omega, by simpa using hleft⟩
    · exact ⟨j, w, m', .once hmatch, by omega, hrest⟩

theorem leaves (n : Node) : Leaves program text n := by
  induction n with
  | star greedy body ih => exact leaves_star ih
  | plus greedy body ih => exact leaves_plus ih
  | empty =>
    intro base next m i u t hcode hsteps ht
    rw [code, Placed.singleton_iff] at hcode
    obtain ⟨m, v, rfl, hv, hrest⟩ := hsteps.exists_next (by simp [Thread.accepts, hcode]) ht
    simp only [Thread.next, hcode, List.mem_singleton] at hv
    subst hv
    exact ⟨i, [], m, .empty, Nat.lt_succ_self m, hrest⟩
  | set s =>
    intro base next m i u t hcode hsteps ht
    rw [code, Placed.singleton_iff] at hcode
    obtain ⟨m, v, rfl, hv, hrest⟩ := hsteps.exists_next (by simp [Thread.accepts, hcode]) ht
    simp only [Thread.next, hcode, Option.any_eq_true] at hv
    split at hv
    · rename_i hany
      obtain ⟨c, hc, hs⟩ := hany
      obtain rfl := List.mem_singleton.mp hv
      exact ⟨i + 1, [], m, .set hc hs, Nat.lt_succ_self m, hrest⟩
    · cases hv
  | look l =>
    intro base next m i u t hcode hsteps ht
    rw [code, Placed.singleton_iff] at hcode
    obtain ⟨m, v, rfl, hv, hrest⟩ := hsteps.exists_next (by simp [Thread.accepts, hcode]) ht
    simp only [Thread.next, hcode] at hv
    split at hv
    · rename_i hholds
      obtain rfl := List.mem_singleton.mp hv
      exact ⟨i, [], m, .look hholds, Nat.lt_succ_self m, hrest⟩
    · cases hv
  | capture index body ih =>
    intro base next m i u t hcode hsteps ht
    rw [code, Placed.cons_iff, Placed.append_iff, Placed.singleton_iff, length_code] at hcode
    obtain ⟨hopen, hbody, hclose⟩ := hcode
    obtain ⟨m, rfl, hrest⟩ := hsteps.of_save hopen ht
    obtain ⟨j, w, m', hmatch, hlt, hend⟩ := ih _ _ _ _ _ _ hbody hrest ht
    obtain ⟨m', rfl, hrest⟩ := hend.of_save hclose ht
    exact ⟨j, _, m', .capture hmatch, by omega, by simpa using hrest⟩
  | seq a b iha ihb =>
    intro base next m i u t hcode hsteps ht
    rw [code, Placed.append_iff, length_code] at hcode
    obtain ⟨j, w, m', hmatch, hlt, hmiddle⟩ := iha _ _ _ _ _ _ hcode.1 hsteps ht
    obtain ⟨k, w', m'', hmatch', hlt', hrest⟩ := ihb _ _ _ _ _ _ hcode.2 hmiddle ht
    exact ⟨k, w' ++ w, m'', .seq hmatch hmatch', by omega, by simpa using hrest⟩
  | alt a b iha ihb =>
    intro base next m i u t hcode hsteps ht
    rw [code, Placed.cons_iff, Placed.append_iff, length_code] at hcode
    obtain ⟨m, rfl, hrest | hrest⟩ := hsteps.of_split true hcode.1 ht
    · obtain ⟨j, w, m', hmatch, hlt, hrest⟩ := iha _ _ _ _ _ _ hcode.2.1 hrest ht
      exact ⟨j, w, m', .first hmatch, by omega, hrest⟩
    · obtain ⟨j, w, m', hmatch, hlt, hrest⟩ := ihb _ _ _ _ _ _ hcode.2.2 hrest ht
      exact ⟨j, w, m', .second hmatch, by omega, hrest⟩

end Node

end Signpost.Regex
