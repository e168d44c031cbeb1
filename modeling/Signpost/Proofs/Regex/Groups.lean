import Signpost.Regex.Captures

/-!
# Groups of compiled expressions

If the groups of an expression are numbered from one on in the order in which they stand, the names
of the groups are a list in that order (`groupNames_ofExpr`). The text of a group is found where its
two positions were stored last (`Captures.group?_of_slots`).
-/

namespace Signpost.Regex

/-! ## Names -/

namespace Expr

theorem groups_sequence (es : List Expr) : (sequence es).groups = es.flatMap groups := by
  induction es with
  | nil => rfl
  | cons e es ih =>
    cases es with
    | nil => simp [sequence]
    | cons e' es => exact congrArg (e.groups ++ ·) ih

end Expr

/-- The groups with the names, counted from an index on. -/
def numbered (index : Nat) (names : List (Option String)) : List (Nat × Option String) :=
  (names.zipIdx index).map Prod.swap

theorem numbered_append (index : Nat) (names names' : List (Option String)) :
    numbered index (names ++ names') =
      numbered index names ++ numbered (index + names.length) names' := by
  rw [numbered, List.zipIdx_append, List.map_append]
  rfl

theorem nameAt_numbered (names : List (Option String)) : ∀ index i,
    nameAt (numbered index names) (index + i) = names[i]?.join := by
  induction names with
  | nil => exact fun _ _ => rfl
  | cons name names ih =>
    intro index i
    have hcons : numbered index (name :: names) = (index, name) :: numbered (index + 1) names := rfl
    rw [hcons, nameAt]
    cases i with
    | zero => simp
    | succ i =>
      have hindex : index + (i + 1) = index + 1 + i := by omega
      rw [List.find?_cons_of_neg (by simp), ← nameAt, hindex, ih]
      rfl

theorem foldl_max_numbered (names : List (Option String)) : ∀ n,
    (numbered (n + 1) names).foldl (fun n g => max n g.1) n = n + names.length := by
  induction names with
  | nil => exact fun _ => rfl
  | cons name names ih =>
    intro n
    have hcons : numbered (n + 1) (name :: names) =
        (n + 1, name) :: numbered (n + 1 + 1) names := rfl
    rw [hcons, List.foldl_cons, Nat.max_eq_right (Nat.le_succ n), ih, List.length_cons]
    omega

theorem groupNames_ofExpr {source : String} {e : Expr} {names : List (Option String)}
    (h : e.groups = numbered 1 names) : (ofExpr source e).groupNames = names := by
  have hcount : e.groups.foldl (fun n g => max n g.1) 0 = names.length := by
    rw [h, foldl_max_numbered, Nat.zero_add]
  have hnames : (ofExpr source e).groupNames =
      (List.range names.length).map fun i => nameAt (numbered 1 names) (i + 1) := by
    rw [← hcount, ← h]
    rfl
  rw [hnames]
  refine List.ext_getElem (by simp) fun i hi hi' => ?_
  rw [List.getElem_map, List.getElem_range, Nat.add_comm, nameAt_numbered,
    List.getElem?_eq_getElem hi']
  rfl

theorem le_foldl_max_iff {gs : List (Nat × Option String)} {m n : Nat} :
    m ≤ gs.foldl (fun n g => max n g.1) n ↔ m ≤ n ∨ ∃ g ∈ gs, m ≤ g.1 := by
  induction gs generalizing n with
  | nil => simp
  | cons g gs ih =>
    have hmax : m ≤ max n g.1 ↔ m ≤ n ∨ m ≤ g.1 := by omega
    rw [List.foldl_cons, ih, hmax, or_assoc]
    simp

/-- There are as many names as the greatest index of a group tells. -/
theorem length_groupNames_ofExpr {source : String} {e : Expr} {g : Nat × Option String}
    (hg : g ∈ e.groups) (hmax : ∀ g' ∈ e.groups, g'.1 ≤ g.1) :
    (ofExpr source e).groupNames.length = g.1 := by
  have hlength : (ofExpr source e).groupNames.length =
      e.groups.foldl (fun n g => max n g.1) 0 := by
    rw [ofExpr, List.length_map, List.length_range]
  rw [hlength]
  refine Nat.le_antisymm ?_ (le_foldl_max_iff.mpr (.inr ⟨g, hg, Nat.le_refl _⟩))
  obtain hzero | ⟨g', hg', hle⟩ := le_foldl_max_iff.mp (Nat.le_refl (e.groups.foldl _ 0))
  · exact Nat.le_trans hzero (Nat.zero_le _)
  · exact Nat.le_trans hle (hmax g' hg')

/-- Groups without a name behind the others have no part in the named ones. -/
theorem namedGroups_eq {r : Regex} {names : List String} {n : Nat}
    (h : r.groupNames = names.map some ++ List.replicate n none) :
    r.namedGroups = names.zipIdx 1 := by
  have hsome : ∀ index, ((names.map some).zipIdx index).filterMap
      (fun group => group.1.map (·, group.2)) = names.zipIdx index := by
    intro index
    rw [List.zipIdx_map, List.filterMap_map]
    exact List.filterMap_some
  have hnone : ∀ index, ((List.replicate n (none : Option String)).zipIdx index).filterMap
      (fun group => group.1.map (·, group.2)) = [] := by
    intro index
    rw [List.filterMap_eq_nil_iff]
    rintro ⟨name, i⟩ hmem
    obtain rfl := List.eq_of_mem_replicate (List.fst_mem_of_mem_zipIdx hmem)
    rfl
  change (r.groupNames.zipIdx 1).filterMap (fun group => group.1.map (·, group.2)) = _
  rw [h, List.zipIdx_append, List.filterMap_append, hsome, hnone, List.append_nil]

/-! ## Texts -/

namespace Captures

variable {c : Captures} {earlier later : List (Nat × Nat)} {index i j : Nat}

/-- A position is the one stored last. -/
theorem slot?_of_slots {slot : Nat} (h : c.slots = later ++ (slot, i) :: earlier)
    (hlater : ∀ e ∈ later, e.1 ≠ slot) : c.slot? slot = some i := by
  have hnone : later.find? (·.1 == slot) = none :=
    List.find?_eq_none.mpr fun e he => by simpa using hlater e he
  rw [slot?, h, List.find?_append, hnone]
  simp

theorem span?_of_slots
    (h : c.slots = later ++ (2 * index + 1, j) :: (2 * index, i) :: earlier)
    (hlater : ∀ e ∈ later, e.1 ≠ 2 * index ∧ e.1 ≠ 2 * index + 1) :
    c.span? index = some (i, j) := by
  have hstop : c.slot? (2 * index + 1) = some j :=
    slot?_of_slots h fun e he => (hlater e he).2
  have hstart : c.slot? (2 * index) = some i := by
    have hslots : c.slots = (later ++ [(2 * index + 1, j)]) ++ (2 * index, i) :: earlier := by
      simp [h]
    refine slot?_of_slots hslots fun e he => ?_
    obtain he | he := List.mem_append.mp he
    · exact (hlater e he).1
    · obtain rfl := List.mem_singleton.mp he
      simp
  rw [span?, hstart, hstop]
  rfl

theorem group?_of_slots
    (h : c.slots = later ++ (2 * index + 1, j) :: (2 * index, i) :: earlier)
    (hlater : ∀ e ∈ later, e.1 ≠ 2 * index ∧ e.1 ≠ 2 * index + 1) :
    c.group? index = some (String.ofList ((c.text.toList.drop i).take (j - i))) := by
  rw [group?, span?_of_slots h hlater]
  rfl

end Captures

end Signpost.Regex
