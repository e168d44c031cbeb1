/-!
# Dictionaries

A `Dict` maps texts to values. Its entries are kept in ascending order of their keys, so two
dictionaries with the same values are equal (`Dict.ext_get?`), and a listing has one order.
-/

namespace Signpost

/-- A finite map from texts, its entries ascending by key. -/
structure Dict (α : Type) where
  entries : List (String × α)
  sorted : entries.Pairwise fun a b => a.1 < b.1

namespace Dict

variable {α β : Type}

/-! ## Entries -/

/-- Of two different texts that are not in ascending order, the second comes first. -/
theorem lt_of_not_lt {a b : String} (h : ¬a < b) (hne : a ≠ b) : b < a := by
  apply Decidable.byContradiction
  intro hb
  exact hne (String.le_antisymm (String.not_lt.mp hb) (String.not_lt.mp h))

/-- The value of the first entry with the key. -/
def find? (key : String) : List (String × α) → Option α
  | [] => none
  | (k, v) :: rest => if key = k then some v else find? key rest

/-- Puts a value at a key of ascending entries, in place of the one that was there. -/
def put (key : String) (value : α) : List (String × α) → List (String × α)
  | [] => [(key, value)]
  | (k, v) :: rest =>
    if key < k then (key, value) :: (k, v) :: rest
    else if key = k then (key, value) :: rest
    else (k, v) :: put key value rest

theorem mem_put {key : String} {value : α} {e : String × α} {l : List (String × α)}
    (h : e ∈ put key value l) : e = (key, value) ∨ e ∈ l := by
  induction l with
  | nil => simpa [put] using h
  | cons head rest ih =>
    obtain ⟨k, v⟩ := head
    rw [put] at h
    split at h
    · simpa using h
    · split at h
      · rcases List.mem_cons.mp h with h | h
        · exact .inl h
        · exact .inr (List.mem_cons_of_mem _ h)
      · rcases List.mem_cons.mp h with h | h
        · exact .inr (h ▸ List.mem_cons_self)
        · exact (ih h).imp_right (List.mem_cons_of_mem _)

theorem sorted_put (key : String) (value : α) {l : List (String × α)}
    (h : l.Pairwise fun a b => a.1 < b.1) :
    (put key value l).Pairwise fun a b => a.1 < b.1 := by
  induction l with
  | nil => simp [put]
  | cons head rest ih =>
    obtain ⟨k, v⟩ := head
    have hhead := (List.pairwise_cons.mp h).1
    have hrest := (List.pairwise_cons.mp h).2
    rw [put]
    split
    · next hlt =>
      refine List.pairwise_cons.mpr ⟨?_, h⟩
      intro e he
      rcases List.mem_cons.mp he with rfl | he
      · exact hlt
      · exact String.lt_trans hlt (hhead e he)
    · next hnlt =>
      split
      · next heq =>
        subst heq
        exact List.pairwise_cons.mpr ⟨hhead, hrest⟩
      · next hne =>
        refine List.pairwise_cons.mpr ⟨?_, ih hrest⟩
        intro e he
        rcases mem_put he with rfl | he
        · exact lt_of_not_lt hnlt hne
        · exact hhead e he

/-! ## Operations -/

def empty : Dict α := ⟨[], .nil⟩

instance : EmptyCollection (Dict α) := ⟨empty⟩
instance : Inhabited (Dict α) := ⟨empty⟩

def get? (d : Dict α) (key : String) : Option α := find? key d.entries

/-- The dictionary with the value at the key, in place of the one that was there. -/
def insert (d : Dict α) (key : String) (value : α) : Dict α :=
  ⟨put key value d.entries, sorted_put key value d.sorted⟩

def erase (d : Dict α) (key : String) : Dict α :=
  ⟨d.entries.filter fun e => e.1 != key, d.sorted.filter _⟩

def contains (d : Dict α) (key : String) : Bool := (d.get? key).isSome

def size (d : Dict α) : Nat := d.entries.length

def isEmpty (d : Dict α) : Bool := d.entries.isEmpty

/-- The entries in ascending order of the keys. -/
def toList (d : Dict α) : List (String × α) := d.entries

/-- The dictionary that the entries make when they are inserted one after the other. -/
def ofList (entries : List (String × α)) : Dict α :=
  entries.foldl (fun d e => d.insert e.1 e.2) empty

/-- The dictionary with the entries of the other one laid over it. -/
def merge (d other : Dict α) : Dict α :=
  other.entries.foldl (fun d e => d.insert e.1 e.2) d

/-- The dictionary with every value replaced. -/
def map (f : α → β) (d : Dict α) : Dict β :=
  ⟨d.entries.map fun e => (e.1, f e.2), List.pairwise_map.mpr d.sorted⟩

instance [BEq α] : BEq (Dict α) := ⟨fun a b => a.entries == b.entries⟩
instance [Repr α] : Repr (Dict α) := ⟨fun d n => reprPrec d.entries n⟩

/-! ## The view by key -/

theorem find?_put (key k : String) (value : α) (l : List (String × α)) :
    find? k (put key value l) = if k = key then some value else find? k l := by
  induction l with
  | nil => simp [put, find?]
  | cons head rest ih =>
    obtain ⟨k', v'⟩ := head
    rw [put]
    split
    · simp [find?]
    · split
      · next heq =>
        subst heq
        by_cases h : k = key <;> simp [find?, h]
      · next hne =>
        by_cases h : k = k'
        · subst h
          simp [find?, Ne.symm hne]
        · simp [find?, h, ih]

@[simp]
theorem get?_empty (k : String) : (empty : Dict α).get? k = none := rfl

@[simp]
theorem get?_insert (d : Dict α) (key k : String) (value : α) :
    (d.insert key value).get? k = if k = key then some value else d.get? k :=
  find?_put key k value d.entries

theorem contains_insert (d : Dict α) (key k : String) (value : α) :
    (d.insert key value).contains k = true ↔ k = key ∨ d.contains k = true := by
  unfold contains
  rw [get?_insert]
  split
  · next heq => simp [heq]
  · next hne => simp [hne]

theorem isEmpty_insert (d : Dict α) (key : String) (value : α) :
    (d.insert key value).isEmpty = false := by
  unfold isEmpty insert
  dsimp only
  cases d.entries with
  | nil => rfl
  | cons head rest =>
    rw [put]
    split
    · rfl
    · split <;> rfl

theorem get?_map (f : α → β) (d : Dict α) (key : String) :
    (d.map f).get? key = (d.get? key).map f := by
  obtain ⟨entries, sorted⟩ := d
  simp only [map, get?]
  clear sorted
  induction entries with
  | nil => rfl
  | cons head rest ih =>
    rw [List.map_cons, find?, find?, ih]
    split <;> rfl

theorem get?_erase_of_ne (d : Dict α) {key k : String} (h : k ≠ key) :
    (d.erase key).get? k = d.get? k := by
  unfold get? erase
  dsimp only
  induction d.entries with
  | nil => rfl
  | cons head rest ih =>
    obtain ⟨k', v'⟩ := head
    by_cases hkey : k' = key
    · rw [List.filter_cons_of_neg (by simp [hkey]), ih, find?, if_neg (hkey ▸ h)]
    · rw [List.filter_cons_of_pos (by simp [hkey]), find?, find?, ih]

theorem find?_eq_none_of_not_mem {k : String} {l : List (String × α)} (h : k ∉ l.map (·.1)) :
    find? k l = none := by
  induction l with
  | nil => rfl
  | cons head rest ih =>
    obtain ⟨k', v'⟩ := head
    rw [List.map_cons, List.mem_cons, not_or] at h
    rw [find?, if_neg h.1, ih h.2]

theorem find?_eq_some_of_mem {l : List (String × α)} (h : (l.map (·.1)).Nodup)
    {e : String × α} (he : e ∈ l) : find? e.1 l = some e.2 := by
  induction l with
  | nil => cases he
  | cons head rest ih =>
    obtain ⟨hhead, hrest⟩ := List.nodup_cons.mp h
    rw [find?]
    rcases List.mem_cons.mp he with rfl | he
    · exact if_pos rfl
    · have hne : e.1 ≠ head.1 := fun heq => hhead (List.mem_map.mpr ⟨e, he, heq⟩)
      rw [if_neg hne, ih hrest he]

theorem find?_eq_none_of_lt {k : String} {l : List (String × α)} (h : ∀ e ∈ l, k < e.1) :
    find? k l = none := by
  refine find?_eq_none_of_not_mem fun hmem => ?_
  obtain ⟨e, he, rfl⟩ := List.mem_map.mp hmem
  exact String.lt_irrefl e.1 (h e he)

/-- There is at most one entry with the key, and it has the value. -/
theorem filter_key_toList (d : Dict α) (key : String) :
    d.toList.filter (·.1 == key) = ((d.get? key).map (key, ·)).toList := by
  obtain ⟨entries, hsorted⟩ := d
  unfold toList get?
  dsimp only
  induction entries with
  | nil => rfl
  | cons head rest ih =>
    obtain ⟨k, v⟩ := head
    obtain ⟨hhead, hrest⟩ := List.pairwise_cons.mp hsorted
    have hfilter := ih hrest
    by_cases hkey : k = key
    · subst hkey
      rw [find?_eq_none_of_lt hhead] at hfilter
      rw [List.filter_cons_of_pos (by simp), hfilter, find?, if_pos rfl]
      rfl
    · rw [List.filter_cons_of_neg (by simpa using hkey), hfilter, find?, if_neg (Ne.symm hkey)]

/-- Dictionaries with the same value at every key are equal. -/
theorem ext_get? {a b : Dict α} (h : ∀ k, a.get? k = b.get? k) : a = b := by
  obtain ⟨as, ha⟩ := a
  obtain ⟨bs, hb⟩ := b
  simp only [get?] at h
  congr
  induction as generalizing bs with
  | nil =>
    cases bs with
    | nil => rfl
    | cons head rest =>
      have := h head.1
      simp [find?] at this
  | cons x xs ih =>
    cases bs with
    | nil =>
      have := h x.1
      simp [find?] at this
    | cons y ys =>
      have hx := (List.pairwise_cons.mp ha).1
      have hy := (List.pairwise_cons.mp hb).1
      have hkey : x.1 = y.1 := by
        apply Decidable.byContradiction
        intro hne
        by_cases hlt : x.1 < y.1
        · have hx' := h x.1
          rw [find?_eq_none_of_lt (l := y :: ys)] at hx'
          · simp [find?] at hx'
          · intro e he
            rcases List.mem_cons.mp he with rfl | he
            · exact hlt
            · exact String.lt_trans hlt (hy e he)
        · have hgt := lt_of_not_lt hlt hne
          have hy' := h y.1
          rw [find?_eq_none_of_lt (l := x :: xs)] at hy'
          · simp [find?] at hy'
          · intro e he
            rcases List.mem_cons.mp he with rfl | he
            · exact hgt
            · exact String.lt_trans hgt (hx e he)
      have hvalue : x.2 = y.2 := by
        have := h x.1
        simpa [find?, hkey] using this
      have hxy : x = y := Prod.ext hkey hvalue
      subst hxy
      congr
      apply ih (List.pairwise_cons.mp ha).2 ys (List.pairwise_cons.mp hb).2
      intro k
      by_cases hk : k = x.1
      · subst hk
        rw [find?_eq_none_of_lt hx, find?_eq_none_of_lt hy]
      · simpa [find?, hk] using h k

/-! ## Laying one dictionary over another -/

theorem get?_foldl_insert {l : List (String × α)} (h : (l.map (·.1)).Nodup) (k : String)
    (d : Dict α) :
    (l.foldl (fun d e => d.insert e.1 e.2) d).get? k = (find? k l).or (d.get? k) := by
  induction l generalizing d with
  | nil => rfl
  | cons head rest ih =>
    obtain ⟨k', v'⟩ := head
    obtain ⟨hhead, hrest⟩ := List.nodup_cons.mp h
    rw [List.foldl_cons, ih hrest, get?_insert, find?]
    by_cases hk : k = k'
    · subst hk
      simp [find?_eq_none_of_not_mem hhead]
    · simp [hk]

/-- Keys that ascend are distinct. -/
theorem nodup_keys (d : Dict α) : (d.entries.map (·.1)).Nodup := by
  refine List.pairwise_map.mpr (d.sorted.imp fun hlt heq => ?_)
  exact String.lt_irrefl _ (heq ▸ hlt)

theorem get?_merge (d other : Dict α) (k : String) :
    (d.merge other).get? k = (other.get? k).or (d.get? k) :=
  get?_foldl_insert other.nodup_keys k d

@[simp]
theorem merge_empty (d : Dict α) : d.merge empty = d := rfl

theorem merge_of_isEmpty (d : Dict α) {other : Dict α} (h : other.isEmpty = true) :
    d.merge other = d := by
  have hnil : other.entries = [] := List.isEmpty_iff.mp h
  rw [merge, hnil]
  rfl

theorem merge_insert (d other : Dict α) (key : String) (value : α) :
    d.merge (other.insert key value) = (d.merge other).insert key value := by
  apply ext_get?
  intro k
  rw [get?_merge, get?_insert, get?_insert, get?_merge]
  split <;> rfl

end Dict

end Signpost
