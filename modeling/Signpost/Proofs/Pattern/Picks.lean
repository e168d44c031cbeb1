import Mathlib.Data.Nat.Find
import Signpost.Proofs.Pattern.Language

/-!
# The words that atoms pick

A text may be divided among atoms in more than one way. Each atom takes the longest word behind
which the atoms after it can still go on (`Atom.Picks`). Whatever can be divided is divided so
(`Atom.exists_picks`), and a list of atoms picks what its two parts pick, where the first has the
second in view (`Atom.Picks.append`).
-/

namespace Signpost.Pattern.Atom

variable {H H' : List Char → Prop} {a : Atom} {atoms atoms' : List Atom} {s t r : List Char}
  {us us' : List (List Char)}

/-! ## Texts that atoms can be followed through -/

/-- The text begins with a word of the atoms, and what follows the word is in `H`. -/
def Leads (H : List Char → Prop) (atoms : List Atom) (s : List Char) : Prop :=
  ∃ w r, s = w ++ r ∧ DenoteAll atoms w ∧ H r

theorem leads_nil_iff : Leads H [] s ↔ H s := by
  constructor
  · rintro ⟨w, r, rfl, hw, hr⟩
    cases hw
    exact hr
  · exact fun h => ⟨[], s, rfl, .nil, h⟩

theorem leads_cons_iff :
    Leads H (a :: atoms) s ↔ ∃ u t, s = u ++ t ∧ a.Denotes u ∧ Leads H atoms t := by
  constructor
  · rintro ⟨_, r, rfl, hw, hr⟩
    cases hw with
    | @cons _ _ u v hu hv => exact ⟨u, v ++ r, List.append_assoc u v r, hu, v, r, rfl, hv, hr⟩
  · rintro ⟨u, _, rfl, hu, v, r, rfl, hv, hr⟩
    exact ⟨u ++ v, r, (List.append_assoc u v r).symm, .cons hu hv, hr⟩

theorem leads_append_iff : Leads H (atoms ++ atoms') s ↔ Leads (Leads H atoms') atoms s := by
  induction atoms generalizing s with
  | nil => exact leads_nil_iff.symm
  | cons a atoms ih => simp only [List.cons_append, leads_cons_iff, ih]

/-- Only what can remain behind a word counts. -/
theorem Leads.imp (h : Leads H atoms s)
    (hH : ∀ w t, s = w ++ t → DenoteAll atoms w → H t → H' t) : Leads H' atoms s := by
  obtain ⟨w, r, hs, hw, hr⟩ := h
  exact ⟨w, r, hs, hw, hH w r hs hw hr⟩

/-! ## Picked words -/

/-- The atoms pick the words `us` from the text, one each, and leave `r`, which is in `H`: each word
is the longest behind which the next atoms can come to an end in `H`. -/
inductive Picks (H : List Char → Prop) :
    List Atom → List Char → List (List Char) → List Char → Prop
  | nil {r : List Char} (h : H r) : Picks H [] r [] r
  | cons {a : Atom} {atoms : List Atom} {u s r : List Char} {us : List (List Char)}
      (hu : a.Denotes u)
      (hlongest : ∀ v t, u ++ s = v ++ t → a.Denotes v → Leads H atoms t → v.length ≤ u.length)
      (hrest : Picks H atoms s us r) : Picks H (a :: atoms) (u ++ s) (u :: us) r

/-- Of the words with which a text begins, if there is one with the property, one is the longest. -/
theorem exists_longest {P : List Char → Prop} (h : ∃ u, u <+: s ∧ P u) :
    ∃ u, u <+: s ∧ P u ∧ ∀ v, v <+: s → P v → v.length ≤ u.length := by
  let Q : Nat → Prop := fun n => n ≤ s.length ∧ P (s.take n)
  have htake : ∀ u, u <+: s → P u → Q u.length := by
    intro u hu hP
    exact ⟨hu.length_le, by rwa [← List.prefix_iff_eq_take.mp hu]⟩
  classical
  obtain ⟨u, hu, hP⟩ := h
  have hQ : Q (Nat.findGreatest Q s.length) :=
    Nat.findGreatest_spec hu.length_le (htake u hu hP)
  refine ⟨s.take (Nat.findGreatest Q s.length), List.take_prefix _ s, hQ.2, fun v hv hPv => ?_⟩
  rw [List.length_take_of_le hQ.1]
  exact Nat.le_findGreatest hv.length_le (htake v hv hPv)

/-- What can be divided among the atoms is divided by picks. -/
theorem exists_picks (h : Leads H atoms s) : ∃ us r, Picks H atoms s us r := by
  induction atoms generalizing s with
  | nil => exact ⟨[], s, .nil (leads_nil_iff.mp h)⟩
  | cons a atoms ih =>
    obtain ⟨u, t, hs, hu, ht⟩ := leads_cons_iff.mp h
    obtain ⟨u, ⟨t, rfl⟩, ⟨hu, ht⟩, hlongest⟩ :=
      exists_longest (s := s) (P := fun u => a.Denotes u ∧ ∃ t, s = u ++ t ∧ Leads H atoms t)
        ⟨u, ⟨t, hs.symm⟩, hu, t, hs, ht⟩
    obtain ⟨_, heq, ht⟩ := ht
    obtain rfl := List.append_cancel_left heq
    obtain ⟨us, r, hpicks⟩ := ih ht
    refine ⟨u :: us, r, .cons hu (fun v t' heq hv ht' => ?_) hpicks⟩
    exact hlongest v ⟨t', heq.symm⟩ ⟨hv, t', heq, ht'⟩

namespace Picks

theorem divides (h : Picks H atoms s us r) :
    s = us.flatten ++ r ∧ DenoteAll atoms us.flatten ∧ H r := by
  induction h with
  | nil h => exact ⟨rfl, .nil, h⟩
  | cons hu _ _ ih =>
    obtain ⟨hs, hw, hr⟩ := ih
    exact ⟨by rw [List.flatten_cons, List.append_assoc, ← hs], .cons hu hw, hr⟩

theorem leads (h : Picks H atoms s us r) : Leads H atoms s :=
  ⟨us.flatten, r, h.divides⟩

theorem length_eq (h : Picks H atoms s us r) : us.length = atoms.length := by
  induction h with
  | nil => rfl
  | cons _ _ _ ih => rw [List.length_cons, List.length_cons, ih]

/-- The first atoms pick their words with a view to those that follow. -/
theorem append (h : Picks (Leads H atoms') atoms s us t) (h' : Picks H atoms' t us' r) :
    Picks H (atoms ++ atoms') s (us ++ us') r := by
  induction h with
  | nil => exact h'
  | cons hu hlongest _ ih =>
    refine .cons hu (fun v t heq hv ht => ?_) (ih h')
    exact hlongest v t heq hv (leads_append_iff.mp ht)

/-- The words depend on `H` only so far as it tells which of the texts that can remain are ends. -/
theorem congr (h : Picks H atoms s us r)
    (hH : ∀ w t, s = w ++ t → DenoteAll atoms w → H' t → H t) (hr : H' r) :
    Picks H' atoms s us r := by
  induction h with
  | nil => exact .nil hr
  | @cons a atoms u s r us hu hlongest _ ih =>
    refine .cons hu (fun v t heq hv ht => ?_) (ih (fun w t hs hw => ?_) hr)
    · refine hlongest v t heq hv (ht.imp fun w t' ht' hw => ?_)
      exact hH (v ++ w) t' (by rw [heq, ht', List.append_assoc]) (.cons hv hw)
    · exact hH (u ++ w) t (by rw [hs, List.append_assoc]) (.cons hu hw)

end Picks

/-! ## What captures get -/

/-- The names of the captures, each with the word that it takes. -/
def values : List Atom → List (List Char) → List (String × String)
  | capture name :: atoms, u :: us => (String.ofList name, String.ofList u) :: values atoms us
  | _ :: atoms, _ :: us => values atoms us
  | _, _ => []

theorem values_append (hlength : us.length = atoms.length) :
    values (atoms ++ atoms') (us ++ us') = values atoms us ++ values atoms' us' := by
  induction atoms generalizing us with
  | nil =>
    obtain rfl := List.length_eq_zero_iff.mp hlength
    rfl
  | cons a atoms ih =>
    cases us with
    | nil => cases hlength
    | cons u us =>
      have hrest := ih (Nat.succ.inj hlength)
      cases a with
      | capture name => exact congrArg ((String.ofList name, String.ofList u) :: ·) hrest
      | _ => exact hrest

end Signpost.Pattern.Atom
