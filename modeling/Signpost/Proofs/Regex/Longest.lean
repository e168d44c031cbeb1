import Signpost.Proofs.Regex.Preference
import Signpost.Proofs.Regex.Words

/-!
# Greedy loops take the longest word

Of the words of a loop over a set of characters the longest is preferred, as long as what follows
can succeed behind it (`Node.chooses_star_set`, `Node.chooses_plus_set`). In a sequence the
expressions choose one after the other, each with a view to those that follow
(`Expr.chooses_sequence`).
-/

namespace Signpost.Regex

variable {text : Array Char}

/-! ## Loops over a set -/

namespace Node

variable {s : Unicode.CharSet} {K : Nat → Prop} {i j : Nat} {u : List Char}

/-- No word of the set that is longer leads to a position of `K`. -/
def Longest (text : Array Char) (s : Unicode.CharSet) (K : Nat → Prop) (i : Nat) (u : List Char) :
    Prop :=
  ∀ v k, (∀ c ∈ v, s.contains c = true) → Spans text i v k → K k → v.length ≤ u.length

/-- Behind its first character, a longest word is a longest word. -/
theorem Longest.tail {c : Char} (h : Longest text s K i (c :: u)) (hs : s.contains c = true)
    (hc : Spans text i [c] (i + 1)) : Longest text s K (i + 1) u := by
  intro v k hv hspan hK
  have hlonger := h (c :: v) k (List.forall_mem_cons.mpr ⟨hs, hv⟩) (hc.append hspan) hK
  simpa using hlonger

theorem chooses_plus_set (hne : u ≠ []) (hu : ∀ c ∈ u, s.contains c = true)
    (hspan : Spans text i u j) (hlongest : Longest text s K i u) :
    (plus true (set s)).Chooses text K i j [] := by
  induction u generalizing i with
  | nil => exact absurd rfl hne
  | cons c u ih =>
    obtain ⟨hs, hrest⟩ := List.forall_mem_cons.mp hu
    obtain ⟨hfirst, hspan⟩ : Spans text i [c] (i + 1) ∧ Spans text (i + 1) u j :=
      Spans.split hspan
    have htail := hlongest.tail hs hfirst
    have hset : ∀ K, (set s).Chooses text K i (i + 1) [] :=
      fun K => .set (Spans.singleton_iff.mp hfirst) hs
    cases u with
    | nil =>
      obtain rfl : j = i + 1 := hspan.2
      refine .once (hset _) fun k w hmatch hK => ?_
      obtain ⟨-, v, hv, hall, hspan'⟩ := matches_plus_set_iff.mp hmatch
      have hlength := htail v k hall hspan' hK
      exact hv (List.length_eq_zero_iff.mp (Nat.le_zero.mp hlength))
    | cons d u => exact .again (hset _) (ih nofun hrest hspan htail)

theorem chooses_star_set (hu : ∀ c ∈ u, s.contains c = true) (hspan : Spans text i u j)
    (hlongest : Longest text s K i u) : (star true (set s)).Chooses text K i j [] := by
  induction u generalizing i with
  | nil =>
    obtain rfl : j = i := hspan.2
    refine .none fun k w hfirst k' w' hmore hK => ?_
    obtain ⟨-, c, hs, hc⟩ := matches_set_iff.mp hfirst
    obtain ⟨-, v, hall, hspan'⟩ := matches_star_set_iff.mp hmore
    have hlength := hlongest (c :: v) k' (List.forall_mem_cons.mpr ⟨hs, hall⟩)
      (hc.append hspan') hK
    simp at hlength
  | cons c u ih =>
    obtain ⟨hs, hrest⟩ := List.forall_mem_cons.mp hu
    obtain ⟨hfirst, hspan⟩ : Spans text i [c] (i + 1) ∧ Spans text (i + 1) u j :=
      Spans.split hspan
    exact .more (.set (Spans.singleton_iff.mp hfirst) hs) (ih hrest hspan (hlongest.tail hs hfirst))

end Node

/-! ## Sequences -/

namespace Expr

/-- The expressions choose one after the other, each with a view to those that follow. -/
inductive ChoosesAll (text : Array Char) (K : Nat → Prop) :
    List Expr → Nat → Nat → List (Nat × Nat) → Prop
  | nil {i : Nat} : ChoosesAll text K [] i i []
  | cons {e : Expr} {es : List Expr} {i j k : Nat} {w w' : List (Nat × Nat)}
      (h : e.expand.Chooses text (fun j => ∃ k v, MatchesAll text es j k v ∧ K k) i j w)
      (hrest : ChoosesAll text K es j k w') : ChoosesAll text K (e :: es) i k (w' ++ w)

variable {K : Nat → Prop}

theorem ChoosesAll.matchesAll {es : List Expr} {i j : Nat} {w : List (Nat × Nat)}
    (h : ChoosesAll text K es i j w) : MatchesAll text es i j w := by
  induction h with
  | nil => exact .nil
  | cons h _ ih => exact .cons h.matches ih

theorem chooses_sequence {es : List Expr} {i j : Nat} {w : List (Nat × Nat)}
    (h : ChoosesAll text K es i j w) : (sequence es).expand.Chooses text K i j w := by
  induction h with
  | nil => exact .empty
  | @cons e es i j k w w' h hrest ih =>
    cases es with
    | nil =>
      have hK : (fun j => ∃ k v, MatchesAll text [] j k v ∧ K k) = K := by
        funext j
        refine propext ⟨?_, fun hj => ⟨j, [], .nil, hj⟩⟩
        rintro ⟨k, v, hnil, hk⟩
        cases hnil
        exact hk
      cases hrest
      exact hK ▸ h
    | cons e' es =>
      have hK : (fun j => ∃ k v, MatchesAll text (e' :: es) j k v ∧ K k) =
          fun j => ∃ k v, (sequence (e' :: es)).expand.Matches text j k v ∧ K k := by
        simp only [matches_sequence_iff]
      exact .seq (hK ▸ h) ih

end Expr

end Signpost.Regex
