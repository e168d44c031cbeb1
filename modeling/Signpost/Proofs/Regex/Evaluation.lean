import Signpost.Pattern.Basic

/-!
# Searches that can be evaluated

A search ends because it enters no pair twice, which is no help when it is to be carried out for a
given text. `searchFor` counts the rounds instead; if they suffice, it gives what the search gives
(`search_eq_of_searchFor`).
-/

namespace Signpost

namespace Regex

variable {program : Array Instr} {text : Array Char}

/-- `explore`, in less than so many rounds. -/
def exploreFor (program : Array Instr) (text : Array Char) :
    (rounds : Nat) → (todo : List Thread) → (seen : Array Bool) →
      Option (Option Thread × Array Bool)
  | 0, _, _ => none
  | _ + 1, [], seen => some (none, seen)
  | rounds + 1, t :: todo, seen =>
    if h : t.key program < seen.size then
      if seen[t.key program] = false then
        if t.accepts program then some (some t, seen)
        else
          exploreFor program text rounds (t.next program text ++ todo)
            (seen.set (t.key program) true)
      else exploreFor program text rounds todo seen
    else exploreFor program text rounds todo seen

theorem explore_eq_of_exploreFor {rounds : Nat} {todo : List Thread} {seen : Array Bool}
    {found : Option Thread × Array Bool}
    (h : exploreFor program text rounds todo seen = some found) :
    explore program text todo seen = found := by
  induction rounds generalizing todo seen with
  | zero => cases h
  | succ rounds ih =>
    cases todo with
    | nil =>
      rw [explore]
      exact Option.some.inj h
    | cons t todo =>
      rw [exploreFor] at h
      rw [explore]
      by_cases hlt : t.key program < seen.size
      · rw [dif_pos hlt] at h ⊢
        by_cases hnew : seen[t.key program] = false
        · rw [if_pos hnew] at h
          rw [dif_pos hnew]
          by_cases haccepts : t.accepts program = true
          · rw [if_pos haccepts] at h ⊢
            exact Option.some.inj h
          · rw [if_neg haccepts] at h ⊢
            exact ih h
        · rw [if_neg hnew] at h
          rw [dif_neg hnew]
          exact ih h
      · rw [dif_neg hlt] at h ⊢
        exact ih h

/-- `exploreFrom`, in less than so many rounds from each start. -/
def exploreFromFor (program : Array Instr) (text : Array Char) (rounds : Nat) :
    (starts : List Nat) → (seen : Array Bool) → Option (Option Thread)
  | [], _ => some none
  | start :: starts, seen =>
    match exploreFor program text rounds [⟨0, start, []⟩] seen with
    | none => none
    | some (some t, _) => some (some t)
    | some (none, seen) => exploreFromFor program text rounds starts seen

theorem exploreFrom_eq_of_exploreFromFor {rounds : Nat} {starts : List Nat} {seen : Array Bool}
    {found : Option Thread} (h : exploreFromFor program text rounds starts seen = some found) :
    exploreFrom program text starts seen = found := by
  induction starts generalizing seen with
  | nil => exact Option.some.inj h
  | cons start starts ih =>
    rw [exploreFromFor] at h
    rw [exploreFrom]
    split at h
    · cases h
    · rename_i hexplore
      rw [explore_eq_of_exploreFor hexplore]
      exact Option.some.inj h
    · rename_i hexplore
      rw [explore_eq_of_exploreFor hexplore]
      exact ih h

/-- `search`, in less than so many rounds from each start. -/
def searchFor (rounds : Nat) (program : Array Instr) (text : Array Char) : Option (Option Thread) :=
  exploreFromFor program text rounds (List.range (text.size + 1))
    (Array.replicate ((text.size + 1) * program.size) false)

theorem search_eq_of_searchFor {rounds : Nat} {found : Option Thread}
    (h : searchFor rounds program text = some found) : search program text = found :=
  exploreFrom_eq_of_exploreFromFor h

/-- `captures?`, in less than so many rounds from each start. -/
def capturesFor (rounds : Nat) (r : Regex) (text : String) : Option (Option Captures) :=
  let chars := text.toList.toArray
  (searchFor rounds r.program chars).map fun found => found.map fun t => ⟨chars, t.slots⟩

theorem captures?_eq_of_capturesFor {rounds : Nat} {r : Regex} {text : String}
    {found : Option Captures} (h : r.capturesFor rounds text = some found) :
    r.captures? text = found := by
  obtain ⟨thread, hthread, rfl⟩ := Option.map_eq_some_iff.mp h
  rw [captures?, search_eq_of_searchFor hthread]

end Regex

/-- A pattern that compiles and its captures on a path, if both can be found by evaluation. -/
theorem Pattern.exists_compile_eq (mode : Mode) (text path : String) (rounds : Nat) {α : Type}
    (f : Pattern → Regex.Captures → α) (a : α)
    (h : ((compile mode text).toOption.bind fun p =>
      (p.regex.capturesFor rounds path).map fun found => found.map (f p)) = some (some a)) :
    ∃ p c, compile mode text = .ok p ∧ p.regex.captures? path = some c ∧ f p c = a := by
  obtain ⟨p, hp, hfound⟩ := Option.bind_eq_some_iff.mp h
  obtain ⟨found, hcaptures, hmap⟩ := Option.map_eq_some_iff.mp hfound
  obtain ⟨c, rfl, ha⟩ := Option.map_eq_some_iff.mp hmap
  refine ⟨p, c, ?_, Regex.captures?_eq_of_capturesFor hcaptures, ha⟩
  cases hcompile : compile mode text with
  | error => simp [hcompile, Except.toOption] at hp
  | ok => simpa [hcompile, Except.toOption] using hp

end Signpost
