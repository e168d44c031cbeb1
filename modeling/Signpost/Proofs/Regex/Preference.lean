import Signpost.Proofs.Regex.Search

/-!
# The search finds the preferred match

Of all matches that begin at a position the search finds the preferred one: at each step of its run
everything that was to be tried before leads nowhere (`Thread.Prefers`). Pairs of address and
position that were entered in vain do not get in the way of that run, and neither does the run
itself (`explore_of_prefers`).

`Node.Chooses` says which match of a node is preferred, where it is known at which positions what
follows can succeed. The code of the node leads along this match
(`Node.exists_prefers_of_chooses`).
-/

namespace Signpost.Regex

open Thread (SamePlace)

variable {program : Array Instr} {text : Array Char}

/-! ## Hopeless threads -/

namespace Thread

variable {t t' u v r r' : Thread} {m n : Nat}

/-- No run from the thread accepts. -/
def Hopeless (program : Array Instr) (text : Array Char) (t : Thread) : Prop :=
  ∀ n u, t.Steps program text n u → u.accepts program = false

theorem next_eq_nil_of_accepts (h : t.accepts program = true) : t.next program text = [] := by
  unfold accepts at h
  split at h
  · rename_i haccept
    rw [next, haccept]
  · cases h

/-- A thread that does not accept is hopeless exactly if all that may follow it are. -/
theorem hopeless_iff (ht : t.accepts program = false) :
    t.Hopeless program text ↔ ∀ u ∈ t.next program text, u.Hopeless program text := by
  constructor
  · exact fun h u hu n v hsteps => h (n + 1) v (.step hu hsteps)
  · intro h n v hsteps
    cases hsteps with
    | refl => exact ht
    | step hu hrest => exact h _ hu _ _ hrest

theorem Hopeless.of_mem_next (h : t.Hopeless program text) (hu : u ∈ t.next program text) :
    u.Hopeless program text :=
  fun n v hsteps => h (n + 1) v (.step hu hsteps)

theorem Steps.congr (h : t.Steps program text n u) (hplace : SamePlace t t') :
    ∃ u', t'.Steps program text n u' ∧ SamePlace u u' := by
  induction h generalizing t' with
  | refl => exact ⟨t', .refl t', hplace⟩
  | step hv _ ih =>
    obtain ⟨v', hv', hplace'⟩ := hplace.exists_mem_next hv
    obtain ⟨u', hsteps, hend⟩ := ih hplace'
    exact ⟨u', .step hv' hsteps, hend⟩

theorem Hopeless.congr (h : t.Hopeless program text) (hplace : SamePlace t t') :
    t'.Hopeless program text := by
  intro n u hsteps
  obtain ⟨u', hsteps', hend⟩ := hsteps.congr hplace.symm
  rw [hend.accepts_eq]
  exact h n u' hsteps'

/-! ## Preferred runs -/

/-- The run that is preferred from `t` has `n` steps and ends in `r`, which accepts: at each step,
what would be tried before is hopeless. -/
inductive Prefers (program : Array Instr) (text : Array Char) : Nat → Thread → Thread → Prop
  | accept {t : Thread} (h : t.accepts program = true) : Prefers program text 0 t t
  | step {t u r : Thread} {us vs : List Thread} {n : Nat}
      (hnext : t.next program text = us ++ u :: vs) (hus : ∀ v ∈ us, v.Hopeless program text)
      (hrest : Prefers program text n u r) : Prefers program text (n + 1) t r

/-- In lists of related members, the first that does not have a property stands at the same position
if related members both have it or both do not. -/
theorem rel_first {α : Type} {R : α → α → Prop} {P : α → Prop} (hP : ∀ {a b}, R a b → (P a ↔ P b))
    {us us' vs vs' : List α} {u u' : α} (h : List.Forall₂ R (us ++ u :: vs) (us' ++ u' :: vs'))
    (hus : ∀ a ∈ us, P a) (hu : ¬P u) (hus' : ∀ a ∈ us', P a) (hu' : ¬P u') : R u u' := by
  induction us generalizing us' with
  | nil =>
    cases us' with
    | nil =>
      cases h with
      | cons hfirst => exact hfirst
    | cons a us' =>
      cases h with
      | cons hfirst => exact absurd ((hP hfirst).mpr (hus' a List.mem_cons_self)) hu
  | cons a us ih =>
    cases us' with
    | nil =>
      cases h with
      | cons hfirst => exact absurd ((hP hfirst).mp (hus a List.mem_cons_self)) hu'
    | cons a' us' =>
      cases h with
      | cons _ hrest =>
        exact ih hrest (fun b hb => hus b (List.mem_cons_of_mem _ hb))
          fun b hb => hus' b (List.mem_cons_of_mem _ hb)

namespace Prefers

theorem exists_steps (h : t.Prefers program text n r) :
    t.Steps program text n r ∧ r.accepts program = true := by
  induction h with
  | accept h => exact ⟨.refl _, h⟩
  | step hnext _ _ ih =>
    exact ⟨.step (hnext ▸ List.mem_append_right _ List.mem_cons_self) ih.1, ih.2⟩

theorem not_hopeless (h : t.Prefers program text n r) : ¬t.Hopeless program text := by
  intro hhopeless
  obtain ⟨hsteps, haccepts⟩ := h.exists_steps
  rw [hhopeless n r hsteps] at haccepts
  cases haccepts

/-- The only way on is preferred. -/
theorem single (hnext : t.next program text = [u]) (h : u.Prefers program text n r) :
    t.Prefers program text (n + 1) r :=
  .step (hnext.trans (List.nil_append _).symm) nofun h

section Instruction

variable {pc i slot next a b : Nat} {w : List (Nat × Nat)}

theorem save (hpc : program[pc]? = some (.save slot next))
    (h : Prefers program text n ⟨next, i, (slot, i) :: w⟩ r) :
    Prefers program text (n + 1) ⟨pc, i, w⟩ r :=
  .single (by simp [Thread.next, hpc]) h

theorem first (hpc : program[pc]? = some (.split a b))
    (h : Prefers program text n ⟨a, i, w⟩ r) : Prefers program text (n + 1) ⟨pc, i, w⟩ r := by
  have hnext : Thread.next program text ⟨pc, i, w⟩ = [] ++ ⟨a, i, w⟩ :: [⟨b, i, w⟩] := by
    simp [Thread.next, hpc]
  exact .step hnext (fun _ hmem => absurd hmem List.not_mem_nil) h

theorem second (hpc : program[pc]? = some (.split a b))
    (hfirst : Hopeless program text ⟨a, i, w⟩) (h : Prefers program text n ⟨b, i, w⟩ r) :
    Prefers program text (n + 1) ⟨pc, i, w⟩ r := by
  have hnext : Thread.next program text ⟨pc, i, w⟩ = [⟨a, i, w⟩] ++ ⟨b, i, w⟩ :: [] := by
    simp [Thread.next, hpc]
  exact .step hnext (List.forall_mem_singleton.mpr hfirst) h

end Instruction

/-- Preferred runs from the same place have the same length. -/
theorem length_eq (h : t.Prefers program text n r) (h' : t'.Prefers program text m r')
    (hplace : SamePlace t t') : m = n := by
  induction h generalizing t' m with
  | accept haccepts =>
    cases h' with
    | accept => rfl
    | step hnext =>
      rw [hplace.accepts_eq] at haccepts
      rw [next_eq_nil_of_accepts haccepts] at hnext
      simp at hnext
  | step hnext hus hrest ih =>
    cases h' with
    | accept haccepts =>
      rw [← hplace.accepts_eq] at haccepts
      rw [next_eq_nil_of_accepts haccepts] at hnext
      simp at hnext
    | step hnext' hus' hrest' =>
      have hall : List.Forall₂ SamePlace (Thread.next program text _)
          (Thread.next program text _) := hplace.forall₂_next
      rw [hnext, hnext'] at hall
      have hfirst := rel_first (fun h => ⟨fun h' => h'.congr h, fun h' => h'.congr h.symm⟩) hall
        hus hrest.not_hopeless hus' hrest'.not_hopeless
      rw [ih hrest' hfirst]

end Prefers

end Thread

/-! ## Searching along a preferred run -/

section Exploration

open Thread (Hopeless Prefers SamePlace)

/-- The number is that of a hopeless thread. -/
def HopelessKey (program : Array Instr) (text : Array Char) (k : Nat) : Prop :=
  ∃ u : Thread, u.Valid program text ∧ u.key program = k ∧ u.Hopeless program text

/-- The number is that of a thread that is hopeless or has more than `n` steps before it. -/
def Entered (program : Array Instr) (text : Array Char) (n k : Nat) : Prop :=
  ∃ u : Thread, u.Valid program text ∧ u.key program = k ∧
    (u.Hopeless program text ∨ ∃ m r, n < m ∧ u.Prefers program text m r)

/-- Hopeless threads that wait first are followed in vain: the exploration comes back to the others,
and what it entered meanwhile is hopeless. -/
theorem explore_hopeless (hbounded : Bounded program) (rest : List Thread) :
    ∀ (us : List Thread) (seen : Array Bool),
      (∀ u ∈ us, u.Valid program text ∧ u.Hopeless program text) →
      ∃ seen' : Array Bool,
        explore program text (us ++ rest) seen = explore program text rest seen' ∧
        seen'.size = seen.size ∧
        ∀ k : Nat, seen'[k]? = some true → seen[k]? = some true ∨ HopelessKey program text k
  | [], seen, _ => ⟨seen, rfl, rfl, fun _ hk => .inl hk⟩
  | u :: us, seen, hus => by
    obtain ⟨⟨hvalid, hhopeless⟩, hrest⟩ := List.forall_mem_cons.mp hus
    have hreject : u.accepts program = false := hhopeless 0 u (.refl u)
    rw [List.cons_append, explore]
    split
    · rename_i hlt
      split
      · rename_i hnew
        have hnext : ∀ v ∈ u.next program text ++ us,
            v.Valid program text ∧ v.Hopeless program text := by
          intro v hv
          obtain hv | hv := List.mem_append.mp hv
          · exact ⟨hvalid.next hbounded hv, hhopeless.of_mem_next hv⟩
          · exact hrest v hv
        obtain ⟨seen', hexplore, hsize, hmarks⟩ :=
          explore_hopeless hbounded rest (u.next program text ++ us)
            (seen.set (u.key program) true) hnext
        rw [if_neg (Bool.eq_false_iff.mp hreject), ← List.append_assoc]
        refine ⟨seen', hexplore, by simpa using hsize, fun k hk => ?_⟩
        obtain hset | hkey := hmarks k hk
        · rw [Array.getElem?_set] at hset
          split at hset
          · rename_i hkey
            exact .inr ⟨u, hvalid, hkey, hhopeless⟩
          · exact .inl hset
        · exact .inr hkey
      · exact explore_hopeless hbounded rest us seen hrest
    · exact explore_hopeless hbounded rest us seen hrest
  termination_by us seen => (seen.count false, us.length)
  decreasing_by
    all_goals first
      | exact Prod.Lex.right _ (Nat.lt_succ_self _)
      | exact Prod.Lex.left _ _ (count_false_set_lt seen _ (by assumption) (by assumption))

/-- An exploration follows the preferred run of its first thread, unless something on that run was
entered before: what was entered is hopeless or has a longer run before it. -/
theorem explore_of_prefers (hbounded : Bounded program) {n : Nat} {t r : Thread}
    (h : t.Prefers program text n r) : ∀ {todo : List Thread} {seen : Array Bool},
    t.Valid program text → seen.size = (text.size + 1) * program.size →
    (∀ k : Nat, seen[k]? = some true → Entered program text n k) →
    ∃ seen', explore program text (t :: todo) seen = (some r, seen') := by
  have hfresh : ∀ {n : Nat} {t r : Thread} {seen : Array Bool}, t.Prefers program text n r →
      t.Valid program text → seen.size = (text.size + 1) * program.size →
      (∀ k : Nat, seen[k]? = some true → Entered program text n k) →
      ∃ hlt : t.key program < seen.size, seen[t.key program] = false := by
    intro n t r seen h ht hsize hseen
    have hlt : t.key program < seen.size := hsize ▸ ht.key_lt
    refine ⟨hlt, Bool.eq_false_iff.mpr fun hmarked => ?_⟩
    obtain ⟨u, hu, hkey, hhopeless | ⟨m, r', hm, h'⟩⟩ :=
      hseen (t.key program) (by simp [hlt, hmarked])
    · exact h.not_hopeless (hhopeless.congr (hu.samePlace_of_key_eq ht hkey))
    · have := h.length_eq h' (ht.samePlace_of_key_eq hu hkey.symm)
      omega
  induction h with
  | @accept t haccepts =>
    intro todo seen ht hsize hseen
    obtain ⟨hlt, hnew⟩ := hfresh (.accept haccepts) ht hsize hseen
    refine ⟨seen, ?_⟩
    rw [explore, dif_pos hlt, dif_pos hnew, if_pos haccepts]
  | @step t u r us vs n hnext hus hrest ih =>
    intro todo seen ht hsize hseen
    have hwhole : t.Prefers program text (n + 1) r := .step hnext hus hrest
    obtain ⟨hlt, hnew⟩ := hfresh hwhole ht hsize hseen
    have hreject : t.accepts program ≠ true := by
      intro haccepts
      rw [Thread.next_eq_nil_of_accepts haccepts] at hnext
      simp at hnext
    have hvalid : ∀ v ∈ us ++ u :: vs, v.Valid program text :=
      fun v hv => ht.next hbounded (hnext ▸ hv)
    obtain ⟨seen', hexplore, hsize', hmarks⟩ :=
      explore_hopeless hbounded (u :: (vs ++ todo)) us (seen.set (t.key program) true)
        fun v hv => ⟨hvalid v (List.mem_append_left _ hv), hus v hv⟩
    rw [explore, dif_pos hlt, dif_pos hnew, if_neg hreject, hnext, List.append_assoc,
      List.cons_append, hexplore]
    refine ih (hvalid u (List.mem_append_right _ List.mem_cons_self))
      (hsize'.trans (by simpa using hsize)) fun k hk => ?_
    obtain hset | ⟨v, hv, hkey, hhopeless⟩ := hmarks k hk
    · rw [Array.getElem?_set] at hset
      split at hset
      · rename_i hkey
        exact ⟨t, ht, hkey, .inr ⟨n + 1, r, Nat.lt_succ_self n, hwhole⟩⟩
      · obtain ⟨v, hv, hkey, hhopeless | ⟨m, r', hm, h'⟩⟩ := hseen k hset
        · exact ⟨v, hv, hkey, .inl hhopeless⟩
        · exact ⟨v, hv, hkey, .inr ⟨m, r', Nat.lt_of_succ_lt hm, h'⟩⟩
    · exact ⟨v, hv, hkey, .inl hhopeless⟩

/-- The search finds the end of the run that is preferred from the start of the text. -/
theorem search_of_prefers (hbounded : Bounded program) {n : Nat} {r : Thread}
    (hsize : 0 < program.size) (h : Thread.Prefers program text n ⟨0, 0, []⟩ r) :
    search program text = some r := by
  have hstart : Thread.Valid program text ⟨0, 0, []⟩ := ⟨hsize, Nat.zero_le _⟩
  have hfresh : ∀ k : Nat,
      (Array.replicate ((text.size + 1) * program.size) false)[k]? = some true →
        Entered program text n k := by
    intro k hk
    simp [Array.getElem?_replicate] at hk
  obtain ⟨seen', hexplore⟩ : ∃ seen', explore program text [⟨0, 0, []⟩]
      (Array.replicate ((text.size + 1) * program.size) false) = (some r, seen') :=
    explore_of_prefers hbounded h hstart (by simp) hfresh
  rw [search, List.range_succ_eq_map, exploreFrom, hexplore]

end Exploration

/-! ## Preferred matches -/

namespace Node

/-- `n.Chooses text K i j w`: of all matches of the node from `i` to a position at which what
follows can succeed, the one to `j` is preferred, and `w` are the positions that it stores. These
positions are those of `K`. Loops are greedy. -/
inductive Chooses (text : Array Char) : Node → (Nat → Prop) → Nat → Nat → List (Nat × Nat) → Prop
  | empty {K : Nat → Prop} {i : Nat} : Chooses text .empty K i i []
  | set {K : Nat → Prop} {s : Unicode.CharSet} {i : Nat} {c : Char} (hc : text[i]? = some c)
      (hs : s.contains c = true) : Chooses text (.set s) K i (i + 1) []
  | look {K : Nat → Prop} {l : Look} {i : Nat} (h : l.holds (before? text i) text[i]? = true) :
      Chooses text (.look l) K i i []
  | capture {K : Nat → Prop} {index : Nat} {body : Node} {i j : Nat} {w : List (Nat × Nat)}
      (h : Chooses text body K i j w) :
      Chooses text (.capture index body) K i j ((2 * index + 1, j) :: (w ++ [(2 * index, i)]))
  | seq {K : Nat → Prop} {a b : Node} {i j k : Nat} {w w' : List (Nat × Nat)}
      (ha : Chooses text a (fun j => ∃ k v, b.Matches text j k v ∧ K k) i j w)
      (hb : Chooses text b K j k w') : Chooses text (.seq a b) K i k (w' ++ w)
  | first {K : Nat → Prop} {a b : Node} {i j : Nat} {w : List (Nat × Nat)}
      (h : Chooses text a K i j w) : Chooses text (.alt a b) K i j w
  | second {K : Nat → Prop} {a b : Node} {i j : Nat} {w : List (Nat × Nat)}
      (hnot : ∀ k v, a.Matches text i k v → ¬K k) (h : Chooses text b K i j w) :
      Chooses text (.alt a b) K i j w
  | none {K : Nat → Prop} {body : Node} {i : Nat}
      (hnot : ∀ j v, body.Matches text i j v →
        ∀ k v', (star true body).Matches text j k v' → ¬K k) :
      Chooses text (.star true body) K i i []
  | more {K : Nat → Prop} {body : Node} {i j k : Nat} {w w' : List (Nat × Nat)}
      (h : Chooses text body (fun j => ∃ k v, (star true body).Matches text j k v ∧ K k) i j w)
      (hrest : Chooses text (.star true body) K j k w') :
      Chooses text (.star true body) K i k (w' ++ w)
  | once {K : Nat → Prop} {body : Node} {i j : Nat} {w : List (Nat × Nat)}
      (h : Chooses text body
        (fun j => (∃ k v, (plus true body).Matches text j k v ∧ K k) ∨ K j) i j w)
      (hnot : ∀ k v, (plus true body).Matches text j k v → ¬K k) :
      Chooses text (.plus true body) K i j w
  | again {K : Nat → Prop} {body : Node} {i j k : Nat} {w w' : List (Nat × Nat)}
      (h : Chooses text body
        (fun j => (∃ k v, (plus true body).Matches text j k v ∧ K k) ∨ K j) i j w)
      (hrest : Chooses text (.plus true body) K j k w') :
      Chooses text (.plus true body) K i k (w' ++ w)

/-- What is chosen is a match. -/
theorem Chooses.matches {n : Node} {K : Nat → Prop} {i j : Nat} {w : List (Nat × Nat)}
    (h : n.Chooses text K i j w) : n.Matches text i j w := by
  induction h with
  | empty => exact .empty
  | set hc hs => exact .set hc hs
  | look h => exact .look h
  | capture _ ih => exact .capture ih
  | seq _ _ iha ihb => exact .seq iha ihb
  | first _ ih => exact .first ih
  | second _ _ ih => exact .second ih
  | none => exact .none
  | more _ _ ih ihrest => exact .more ih ihrest
  | once _ _ ih => exact .once ih
  | again _ _ ih ihrest => exact .again ih ihrest

open Thread (Hopeless Prefers)

/-- `K` are the positions from which a run at the address accepts. -/
def Hopes (program : Array Instr) (text : Array Char) (pc : Nat) (K : Nat → Prop) : Prop :=
  ∀ j u, ¬Hopeless program text ⟨pc, j, u⟩ ↔ K j

/-- From the start of the code of the node a run accepts exactly if the node matches up to a
position from which one accepts. -/
theorem hopes_code {n : Node} {base next : Nat} {K : Nat → Prop}
    (hcode : Placed program base (n.code base next)) (hnext : Hopes program text next K) :
    Hopes program text base fun i => ∃ j w, n.Matches text i j w ∧ K j := by
  intro i u
  constructor
  · intro h
    obtain ⟨m, t, hsteps, ht⟩ : ∃ m t, Thread.Steps program text m ⟨base, i, u⟩ t ∧
        t.accepts program = true := by
      simpa [Hopeless] using h
    obtain ⟨j, w, m', hmatch, -, hrest⟩ := n.leaves base next m i u t hcode hsteps ht
    refine ⟨j, w, hmatch, (hnext j (w ++ u)).mp fun hhopeless => ?_⟩
    rw [hhopeless m' t hrest] at ht
    cases ht
  · rintro ⟨j, w, hmatch, hK⟩ hhopeless
    obtain ⟨m, hsteps⟩ := steps_of_matches hmatch base next u hcode
    refine (hnext j (w ++ u)).mpr hK fun m' t hrest => ?_
    exact hhopeless (m + m') t (hsteps.trans hrest)

/-- A split leads on wherever one of its ways does. -/
theorem hopes_split {pc first second : Nat} {K K' : Nat → Prop}
    (hpc : program[pc]? = some (.split first second)) (h : Hopes program text first K)
    (h' : Hopes program text second K') : Hopes program text pc fun j => K j ∨ K' j := by
  intro j u
  have hfirst := h j u
  have hsecond := h' j u
  rw [Thread.hopeless_iff (by simp [Thread.accepts, hpc])]
  simp only [Thread.next, hpc, List.mem_cons, List.not_mem_nil, or_false, forall_eq_or_imp,
    forall_eq, Classical.not_and_iff_not_or_not, hfirst, hsecond]

theorem hopes_save {pc slot next : Nat} {K : Nat → Prop}
    (hpc : program[pc]? = some (.save slot next)) (h : Hopes program text next K) :
    Hopes program text pc K := by
  intro j u
  rw [Thread.hopeless_iff (by simp [Thread.accepts, hpc]), ← h j ((slot, j) :: u)]
  simp [Thread.next, hpc]

/-- The code of a node leads along the match that it chooses. -/
theorem exists_prefers_of_chooses {n : Node} {K : Nat → Prop} {i j : Nat} {w : List (Nat × Nat)}
    (h : n.Chooses text K i j w) : ∀ base next u m r, Placed program base (n.code base next) →
      Hopes program text next K → Prefers program text m ⟨next, j, w ++ u⟩ r →
        ∃ m', Prefers program text m' ⟨base, i, u⟩ r := by
  induction h with
  | empty =>
    intro base next u m r hcode hK hr
    rw [code, Placed.singleton_iff] at hcode
    exact ⟨_, .single (by simp [Thread.next, hcode]) hr⟩
  | set hc hs =>
    intro base next u m r hcode hK hr
    rw [code, Placed.singleton_iff] at hcode
    exact ⟨_, .single (by simp [Thread.next, hcode, hc, hs]) hr⟩
  | look h =>
    intro base next u m r hcode hK hr
    rw [code, Placed.singleton_iff] at hcode
    exact ⟨_, .single (by simp [Thread.next, hcode, h]) hr⟩
  | @capture K index body i j w h ih =>
    intro base next u m r hcode hK hr
    rw [code, Placed.cons_iff, Placed.append_iff, Placed.singleton_iff, length_code] at hcode
    obtain ⟨hopen, hbody, hclose⟩ := hcode
    rw [List.cons_append, List.append_assoc] at hr
    obtain ⟨m', hinside⟩ := ih _ _ _ _ _ hbody (hopes_save hclose hK) (.save hclose hr)
    exact ⟨_, .save hopen hinside⟩
  | @seq K a b i j k w w' _ _ iha ihb =>
    intro base next u m r hcode hK hr
    rw [code, Placed.append_iff, length_code] at hcode
    rw [List.append_assoc] at hr
    obtain ⟨m', hsecond⟩ := ihb _ _ _ _ _ hcode.2 hK hr
    exact iha _ _ _ _ _ hcode.1 (hopes_code hcode.2 hK) hsecond
  | @first K a b i j w _ ih =>
    intro base next u m r hcode hK hr
    rw [code, Placed.cons_iff, Placed.append_iff, length_code] at hcode
    obtain ⟨m', hfirst⟩ := ih _ _ _ _ _ hcode.2.1 hK hr
    exact ⟨_, .first hcode.1 hfirst⟩
  | @second K a b i j w hnot _ ih =>
    intro base next u m r hcode hK hr
    rw [code, Placed.cons_iff, Placed.append_iff, length_code] at hcode
    obtain ⟨m', hsecond⟩ := ih _ _ _ _ _ hcode.2.2 hK hr
    refine ⟨_, .second hcode.1 ?_ hsecond⟩
    by_contra hhope
    obtain ⟨k, v, hmatch, hKk⟩ := (hopes_code hcode.2.1 hK i u).mp hhope
    exact hnot k v hmatch hKk
  | @none K body i hnot =>
    intro base next u m r hcode hK hr
    have hloop := hopes_code hcode hK
    rw [code, Placed.cons_iff] at hcode
    refine ⟨_, .second hcode.1 ?_ hr⟩
    by_contra hhope
    obtain ⟨j, v, hmatch, k, v', hmore, hKk⟩ := (hopes_code hcode.2 hloop i u).mp hhope
    exact hnot j v hmatch k v' hmore hKk
  | @more K body i j k w w' _ _ ih ihrest =>
    intro base next u m r hcode hK hr
    have hloop := hopes_code hcode hK
    rw [List.append_assoc] at hr
    obtain ⟨m', hrest⟩ := ihrest _ _ _ _ _ hcode hK hr
    rw [code, Placed.cons_iff] at hcode
    obtain ⟨m'', hbody⟩ := ih _ _ _ _ _ hcode.2 hloop hrest
    exact ⟨_, .first hcode.1 hbody⟩
  | @once K body i j w _ hnot ih =>
    intro base next u m r hcode hK hr
    have hloop := hopes_code hcode hK
    rw [code, Placed.append_iff, Placed.singleton_iff, length_code] at hcode
    refine ih _ _ _ _ _ hcode.1 (hopes_split hcode.2 hloop hK) (.second hcode.2 ?_ hr)
    by_contra hhope
    obtain ⟨k, v, hmatch, hKk⟩ := (hloop _ _).mp hhope
    exact hnot k v hmatch hKk
  | @again K body i j k w w' _ _ ih ihrest =>
    intro base next u m r hcode hK hr
    have hloop := hopes_code hcode hK
    rw [List.append_assoc] at hr
    obtain ⟨m', hrest⟩ := ihrest _ _ _ _ _ hcode hK hr
    rw [code, Placed.append_iff, Placed.singleton_iff, length_code] at hcode
    exact ih _ _ _ _ _ hcode.1 (hopes_split hcode.2 hloop hK) (.first hcode.2 hrest)

/-- The search finds the match that the node chooses at the start of the text. -/
theorem search_of_chooses {n : Node} {j : Nat} {w : List (Nat × Nat)}
    (h : n.Chooses text (fun _ => True) 0 j w) :
    search n.program text = some ⟨n.size + 2, j, (1, j) :: (w ++ [(0, 0)])⟩ := by
  obtain ⟨hcode, haccept⟩ := n.placed_program
  have haccepts : ∀ j u, Thread.accepts n.program ⟨n.size + 2, j, u⟩ = true := by
    simp [Thread.accepts, haccept]
  have hend : Hopes n.program text (n.size + 2) fun _ => True := by
    intro j u
    refine iff_true_intro fun hhopeless => ?_
    have hreject := hhopeless 0 _ (.refl _)
    rw [haccepts] at hreject
    cases hreject
  obtain ⟨m, hprefers⟩ := exists_prefers_of_chooses h.capture 0 (n.size + 2) [] 0 _ hcode hend
    (.accept (haccepts _ _))
  have hsize := n.program_size
  rw [search_of_prefers n.bounded_program (by omega) hprefers]
  simp

end Node

end Signpost.Regex
