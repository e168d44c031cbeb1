import Signpost.Proofs.Regex.Matching

/-!
# Words in a text

What a node matches is a word that stands in the text. Here are the words of loops over a set of
characters (`Node.matches_star_set_iff`, `Node.matches_plus_set_iff`), and the matches of a
sequence, one after the other (`Expr.matches_sequence_iff`).
-/

namespace Signpost.Regex

/-! ## Words -/

/-- `Spans text i u j`: the word `u` stands in the text from `i` to `j`. -/
def Spans (text : Array Char) (i : Nat) (u : List Char) (j : Nat) : Prop :=
  u <+: text.toList.drop i ∧ j = i + u.length

namespace Spans

variable {text : Array Char} {i j k : Nat} {u v : List Char}

theorem nil (text : Array Char) (i : Nat) : Spans text i [] i := ⟨List.nil_prefix, rfl⟩

theorem append (h : Spans text i u j) (h' : Spans text j v k) : Spans text i (u ++ v) k := by
  obtain ⟨⟨s, hs⟩, rfl⟩ := h
  obtain ⟨⟨t, ht⟩, rfl⟩ := h'
  have hdrop : text.toList.drop (i + u.length) = s := by
    rw [← List.drop_drop, ← hs, List.drop_left]
  refine ⟨⟨t, ?_⟩, by rw [List.length_append, Nat.add_assoc]⟩
  rw [List.append_assoc, ht, hdrop, hs]

theorem split (h : Spans text i (u ++ v) k) :
    Spans text i u (i + u.length) ∧ Spans text (i + u.length) v k := by
  obtain ⟨⟨t, ht⟩, rfl⟩ := h
  rw [List.append_assoc] at ht
  have hdrop : text.toList.drop (i + u.length) = v ++ t := by
    rw [← List.drop_drop, ← ht, List.drop_left]
  refine ⟨⟨⟨v ++ t, ht⟩, rfl⟩, ⟨t, hdrop.symm⟩, ?_⟩
  rw [List.length_append, Nat.add_assoc]

theorem singleton_iff {c : Char} : Spans text i [c] (i + 1) ↔ text[i]? = some c := by
  rw [← Array.getElem?_toList]
  constructor
  · rintro ⟨⟨t, ht⟩, -⟩
    have hhead : (text.toList.drop i)[0]? = some c := by rw [← ht]; rfl
    simpa using hhead
  · intro h
    obtain ⟨hi, hc⟩ := List.getElem?_eq_some_iff.mp h
    exact ⟨⟨text.toList.drop (i + 1), by rw [List.drop_eq_getElem_cons hi, hc]; rfl⟩, rfl⟩

theorem le_size (h : Spans text i u j) (hi : i ≤ text.size) : j ≤ text.size := by
  obtain ⟨hpre, rfl⟩ := h
  have hlength := hpre.length_le
  have hsize : text.toList.length = text.size := Array.length_toList
  rw [List.length_drop] at hlength
  omega

/-- The word from the start to the end is the whole text. -/
theorem eq_toList (h : Spans text 0 u text.size) : text.toList = u := by
  obtain ⟨hpre, hlength⟩ := h
  rw [Nat.zero_add, ← Array.length_toList] at hlength
  exact (hpre.eq_of_length hlength.symm).symm

theorem whole (text : Array Char) : Spans text 0 text.toList text.size :=
  ⟨List.prefix_refl _, by simp⟩

end Spans

/-! ## Loops over a set -/

namespace Node

variable {text : Array Char} {s : Unicode.CharSet} {greedy : Bool} {i j : Nat}
  {w : List (Nat × Nat)}

theorem matches_set_iff : (set s).Matches text i j w ↔
    w = [] ∧ ∃ c, s.contains c = true ∧ Spans text i [c] j := by
  constructor
  · intro h
    cases h with
    | set hc hs => exact ⟨rfl, _, hs, Spans.singleton_iff.mpr hc⟩
  · rintro ⟨rfl, c, hs, hspan⟩
    obtain rfl := hspan.2
    exact .set (Spans.singleton_iff.mp hspan) hs

theorem matches_star_set_iff : (star greedy (set s)).Matches text i j w ↔
    w = [] ∧ ∃ u : List Char, (∀ c ∈ u, s.contains c = true) ∧ Spans text i u j := by
  constructor
  · intro h
    generalize hn : star greedy (set s) = n at h
    induction h with
    | none => exact ⟨rfl, [], nofun, .nil text _⟩
    | more h _ _ ih =>
      cases hn
      obtain ⟨rfl, c, hc, hspan⟩ := matches_set_iff.mp h
      obtain ⟨rfl, u, hu, hspan'⟩ := ih rfl
      exact ⟨rfl, c :: u, List.forall_mem_cons.mpr ⟨hc, hu⟩, hspan.append hspan'⟩
    | _ => cases hn
  · rintro ⟨rfl, u, hu, hspan⟩
    induction u generalizing i with
    | nil =>
      obtain rfl : j = i := hspan.2
      exact .none
    | cons c u ih =>
      obtain ⟨hc, hrest⟩ := List.forall_mem_cons.mp hu
      obtain ⟨hfirst, hspan⟩ : Spans text i [c] (i + 1) ∧ Spans text (i + 1) u j :=
        Spans.split hspan
      exact .more (matches_set_iff.mpr ⟨rfl, c, hc, hfirst⟩) (ih hrest hspan)

theorem matches_plus_set_iff : (plus greedy (set s)).Matches text i j w ↔
    w = [] ∧ ∃ u : List Char, u ≠ [] ∧ (∀ c ∈ u, s.contains c = true) ∧ Spans text i u j := by
  constructor
  · intro h
    generalize hn : plus greedy (set s) = n at h
    induction h with
    | once h _ =>
      cases hn
      obtain ⟨rfl, c, hc, hspan⟩ := matches_set_iff.mp h
      exact ⟨rfl, [c], nofun, by simpa using hc, hspan⟩
    | again h _ _ ih =>
      cases hn
      obtain ⟨rfl, c, hc, hspan⟩ := matches_set_iff.mp h
      obtain ⟨rfl, u, -, hu, hspan'⟩ := ih rfl
      exact ⟨rfl, c :: u, nofun, List.forall_mem_cons.mpr ⟨hc, hu⟩, hspan.append hspan'⟩
    | _ => cases hn
  · rintro ⟨rfl, u, hne, hu, hspan⟩
    induction u generalizing i with
    | nil => exact absurd rfl hne
    | cons c u ih =>
      obtain ⟨hc, hrest⟩ := List.forall_mem_cons.mp hu
      obtain ⟨hfirst, hspan⟩ : Spans text i [c] (i + 1) ∧ Spans text (i + 1) u j :=
        Spans.split hspan
      have hmatch := matches_set_iff.mpr ⟨rfl, c, hc, hfirst⟩
      cases u with
      | nil =>
        obtain rfl : j = i + 1 := hspan.2
        exact .once hmatch
      | cons d u => exact .again hmatch (ih nofun hrest hspan)

/-- A match ends within the text. -/
theorem Matches.le_size {n : Node} {i j : Nat} {w : List (Nat × Nat)} (h : n.Matches text i j w)
    (hi : i ≤ text.size) : j ≤ text.size := by
  induction h with
  | empty | look | none => exact hi
  | set hc =>
    obtain ⟨hlt, -⟩ := Array.getElem?_eq_some_iff.mp hc
    exact hlt
  | capture _ ih | first _ ih | second _ ih | once _ ih => exact ih hi
  | seq _ _ iha ihb => exact ihb (iha hi)
  | more _ _ ih ihrest | again _ _ ih ihrest => exact ihrest (ih hi)

end Node

/-! ## Sequences -/

namespace Expr

/-- `MatchesAll text es i j w`: the expressions match the text from `i` to `j`, one after the
other. -/
inductive MatchesAll (text : Array Char) : List Expr → Nat → Nat → List (Nat × Nat) → Prop
  | nil {i : Nat} : MatchesAll text [] i i []
  | cons {e : Expr} {es : List Expr} {i j k : Nat} {w w' : List (Nat × Nat)}
      (h : e.expand.Matches text i j w) (hrest : MatchesAll text es j k w') :
      MatchesAll text (e :: es) i k (w' ++ w)

variable {text : Array Char} {i j k : Nat} {w : List (Nat × Nat)}

theorem matches_sequence_iff (es : List Expr) :
    (sequence es).expand.Matches text i j w ↔ MatchesAll text es i j w := by
  induction es generalizing i w with
  | nil =>
    constructor
    · intro h
      cases h
      exact .nil
    · intro h
      cases h
      exact .empty
  | cons e es ih =>
    cases es with
    | nil =>
      constructor
      · exact fun h => .cons h .nil
      · intro h
        cases h with
        | cons h hrest =>
          cases hrest
          exact h
    | cons e' es =>
      constructor
      · intro h
        cases h with
        | seq ha hb => exact .cons ha (ih.mp hb)
      · intro h
        cases h with
        | cons h hrest => exact .seq h (ih.mpr hrest)

theorem matchesAll_append_iff (es es' : List Expr) : MatchesAll text (es ++ es') i k w ↔
    ∃ j v v', w = v' ++ v ∧ MatchesAll text es i j v ∧ MatchesAll text es' j k v' := by
  induction es generalizing i w with
  | nil =>
    constructor
    · exact fun h => ⟨i, [], w, by simp, .nil, h⟩
    · rintro ⟨j, v, v', rfl, h, h'⟩
      cases h
      simpa using h'
  | cons e es ih =>
    constructor
    · intro h
      cases h with
      | cons h hrest =>
        obtain ⟨j, v, v', rfl, hes, hes'⟩ := ih.mp hrest
        exact ⟨j, _, v', List.append_assoc _ _ _, .cons h hes, hes'⟩
    · rintro ⟨j, v, v', rfl, h, h'⟩
      cases h with
      | cons h hrest =>
        rw [← List.append_assoc]
        exact .cons h (ih.mpr ⟨j, _, v', rfl, hrest, h'⟩)

theorem MatchesAll.le_size {es : List Expr} (h : MatchesAll text es i j w) (hi : i ≤ text.size) :
    j ≤ text.size := by
  induction h with
  | nil => exact hi
  | cons h _ ih => exact ih (h.le_size hi)

end Expr

end Signpost.Regex
