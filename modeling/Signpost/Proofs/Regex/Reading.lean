import Signpost.Regex.Parser

/-!
# How signs are read

The reader takes an expression apart sign by sign. `State.Reads st p st'` says that the text `p`
turns the state `st` into `st'` whatever text follows, as long as that does not make a repetition
lazy. What is read so can be put together (`Reads.append`); here are the signs that patterns are
made of.
-/

namespace Signpost.Regex.Parser.State

theorem skip_eq {st : State} (hspaced : st.spaced = false) (s : List Char) :
    skip st.spaced s = s := by
  rw [hspaced]
  rfl

theorem skip_nil (spaced : Bool) : skip spaced [] = [] := by
  unfold skip
  split <;> rfl

/-- Reading `p` turns the state `st` into `st'`, whatever follows, unless that begins with `?`,
which `p` does not do either. -/
structure Reads (st : State) (p : List Char) (st' : State) : Prop where
  head?_ne : p.head? ≠ some '?'
  run : ∀ fuel rest, rest.head? ≠ some '?' → p.length + rest.length ≤ fuel →
    ∃ fuel', rest.length ≤ fuel' ∧ st.run fuel (p ++ rest) = st'.run fuel' rest

namespace Reads

variable {st st' st'' : State} {p q : List Char}

theorem nil (st : State) : st.Reads [] st :=
  ⟨nofun, fun fuel _ _ hfuel => ⟨fuel, by simpa using hfuel, rfl⟩⟩

theorem append (h : st.Reads p st') (h' : st'.Reads q st'') : st.Reads (p ++ q) st'' := by
  have hhead : ∀ {p q : List Char}, p.head? ≠ some '?' → q.head? ≠ some '?' →
      (p ++ q).head? ≠ some '?' := by
    intro p q hp hq
    cases p with
    | nil => exact hq
    | cons c p => exact hp
  refine ⟨hhead h.head?_ne h'.head?_ne, fun fuel rest hrest hfuel => ?_⟩
  rw [List.length_append] at hfuel
  obtain ⟨fuel', hfuel', hrun⟩ := h.run fuel (q ++ rest) (hhead h'.head?_ne hrest)
    (by rw [List.length_append]; omega)
  rw [List.length_append] at hfuel'
  obtain ⟨fuel'', hfuel'', hrun'⟩ := h'.run fuel' rest hrest hfuel'
  exact ⟨fuel'', hfuel'', by rw [List.append_assoc, hrun, hrun']⟩

/-- One sign, which is read in one step. -/
theorem of_step {c : Char} (hspaced : st.spaced = false) (hc : c ≠ '?')
    (h : ∀ rest, rest.head? ≠ some '?' → st.step c (p ++ rest) = .ok (st', rest)) :
    st.Reads (c :: p) st' := by
  refine ⟨by simpa using hc, fun fuel rest hrest hfuel => ?_⟩
  cases fuel with
  | zero => simp at hfuel
  | succ fuel =>
    simp only [List.length_cons] at hfuel
    refine ⟨fuel, by omega, ?_⟩
    rw [List.cons_append, State.run, skip_eq hspaced]
    simp only [h rest hrest]
    rfl

/-- What is read to the end of the text is the expression. -/
theorem run_eq (h : st.Reads p st') : st.run p.length p = .ok st' := by
  obtain ⟨fuel', -, hrun⟩ := h.run p.length [] nofun (by simp)
  rw [List.append_nil] at hrun
  rw [hrun]
  cases fuel' with
  | zero => rfl
  | succ fuel' => rw [State.run, skip_nil]

end Reads

/-! ## Literals -/

section Signs

variable {st : State}

theorem step_of_not_isMeta {c : Char} (h : isMeta c = false) (rest : List Char) :
    st.step c rest = .ok (st.push (.literal ⟨c, false⟩), rest) := by
  unfold step
  dsimp only
  -- each of the other signs is one of the characters that have to be escaped
  split <;> first | rfl | exact absurd h (by decide)

theorem escaped_of_isMeta {c : Char} (h : isMeta c = true) (spaced : Bool) (rest : List Char) :
    escaped spaced (c :: rest) = .ok (.literal ⟨c, false⟩, rest) := by
  simp [isMeta] at h
  rcases h with rfl | rfl | rfl | rfl | rfl | rfl | rfl | rfl | rfl | rfl | rfl | rfl | rfl | rfl |
    rfl | rfl | rfl | rfl <;> rfl

/-- An escaped character is read as itself, whatever it means otherwise. -/
theorem reads_escape (hspaced : st.spaced = false) (c : Char) :
    st.Reads (escape [c]) (st.push (.literal ⟨c, false⟩)) := by
  rw [escape, List.flatMap_cons, List.flatMap_nil, List.append_nil]
  cases h : isMeta c with
  | false =>
    refine .of_step hspaced ?_ fun rest _ => step_of_not_isMeta h rest
    rintro rfl
    exact absurd h (by decide)
  | true =>
    refine .of_step hspaced (by decide) fun rest _ => ?_
    rw [List.cons_append, step, escaped_of_isMeta h]
    rfl

/-! ## Sets and anchors -/

theorem reads_notSlash (hspaced : st.spaced = false) :
    st.Reads ['[', '^', '/', ']'] (st.push (.bracket true (.literal ⟨'/', false⟩))) := by
  refine .of_step hspaced (by decide) fun rest _ => ?_
  unfold step
  rw [hspaced]
  rfl

theorem reads_dot (hspaced : st.spaced = false) : st.Reads ['.'] (st.push .dot) :=
  .of_step hspaced (by decide) fun _ _ => rfl

theorem reads_lineStart (hspaced : st.spaced = false) :
    st.Reads ['^'] (st.push (.anchor .lineStart)) :=
  .of_step hspaced (by decide) fun _ _ => rfl

theorem reads_lineEnd (hspaced : st.spaced = false) :
    st.Reads ['$'] (st.push (.anchor .lineEnd)) :=
  .of_step hspaced (by decide) fun _ _ => rfl

/-! ## Repetitions -/

theorem repeatLast_push {ast : Ast} (hempty : ast ≠ .empty) (hflags : ∀ change, ast ≠ .flags change)
    (lo : Nat) (hi : Option Nat) (greedy : Bool) :
    (st.push ast).repeatLast lo hi greedy = .ok (st.push (.repetition lo hi greedy ast)) := by
  cases ast with
  | empty => exact absurd rfl hempty
  | flags change => exact absurd rfl (hflags change)
  | _ => rfl

theorem greed_of_head?_ne {s : List Char} (h : s.head? ≠ some '?') : greed s = (true, s) := by
  unfold greed
  split
  · exact absurd rfl h
  · rfl

theorem reads_star (hspaced : st.spaced = false) {ast : Ast} (hempty : ast ≠ .empty)
    (hflags : ∀ change, ast ≠ .flags change) :
    (st.push ast).Reads ['*'] (st.push (.repetition 0 none true ast)) := by
  refine .of_step hspaced (by decide) fun rest hrest => ?_
  unfold step
  dsimp only
  rw [List.nil_append, greed_of_head?_ne hrest]
  simp only [repeatLast_push hempty hflags]
  rfl

theorem reads_plus (hspaced : st.spaced = false) {ast : Ast} (hempty : ast ≠ .empty)
    (hflags : ∀ change, ast ≠ .flags change) :
    (st.push ast).Reads ['+'] (st.push (.repetition 1 none true ast)) := by
  refine .of_step hspaced (by decide) fun rest hrest => ?_
  unfold step
  dsimp only
  rw [List.nil_append, greed_of_head?_ne hrest]
  simp only [repeatLast_push hempty hflags]
  rfl

/-! ## Groups -/

/-- The state behind the header of a capturing group with the name. -/
def opened (st : State) (name : String) : State where
  level := ⟨some (.capture (st.captures + 1) (some name)), [], [], st.spaced⟩
  outer := st.level :: st.outer
  spaced := st.spaced
  captures := st.captures + 1
  names := name :: st.names

/-- The state after a capturing group with the name. -/
def captured (st : State) (name : String) (body : Ast) : State :=
  { st with captures := st.captures + 1, names := name :: st.names }.push
    (.group (.capture (st.captures + 1) (some name)) body)

theorem groupName_append {c : Char} {name : List Char} (hc : isNameChar true c = true)
    (hname : ∀ d ∈ name, isNameChar false d = true) (rest : List Char) :
    groupName (c :: name ++ '>' :: rest) = .ok (String.ofList (c :: name), rest) := by
  have hne : ∀ d ∈ c :: name, decide (d ≠ '>') = true := by
    intro d hd
    rw [decide_eq_true_eq]
    rintro rfl
    obtain rfl | hd := List.mem_cons.mp hd
    · exact absurd hc (by decide)
    · exact absurd (hname _ hd) (by decide)
  have htake : (c :: name ++ '>' :: rest).takeWhile (· ≠ '>') = c :: name := by
    rw [List.takeWhile_append_of_pos hne]
    simp
  have hdrop : (c :: name ++ '>' :: rest).dropWhile (· ≠ '>') = '>' :: rest := by
    rw [List.dropWhile_append_of_pos hne]
    simp
  have hall : name.all (isNameChar false) = true := List.all_eq_true.mpr hname
  unfold groupName
  simp only [htake, hdrop, hc, hall, Bool.and_self, if_true]

/-- The header of a group with a valid name is read, if the name is new. -/
theorem step_opened (hspaced : st.spaced = false) {c : Char} {name : List Char}
    (hc : isNameChar true c = true) (hname : ∀ d ∈ name, isNameChar false d = true)
    (rest : List Char) :
    st.step '(' ('?' :: 'P' :: '<' :: (c :: name ++ '>' :: rest)) =
      if String.ofList (c :: name) ∈ st.names then .error .duplicateGroupName
      else .ok (st.opened (String.ofList (c :: name)), rest) := by
  have hlook : isLookAround ('?' :: 'P' :: '<' :: (c :: name ++ '>' :: rest)) = false := rfl
  have hopen : st.openCapture (some (String.ofList (c :: name))) =
      if String.ofList (c :: name) ∈ st.names then .error .duplicateGroupName
      else .ok (st.opened (String.ofList (c :: name))) := by
    rw [openCapture]
    simp only [List.contains_eq_mem, decide_eq_true_eq]
    rfl
  change st.groupHeader ('?' :: 'P' :: '<' :: (c :: name ++ '>' :: rest)) = _
  rw [groupHeader, skip_eq hspaced]
  simp only [Bool.false_eq_true, if_false, groupName_append hc hname, hlook]
  change (st.openCapture (some (String.ofList (c :: name)))).bind
    (fun opened => .ok (opened, rest)) = _
  rw [hopen]
  split <;> rfl

theorem reads_opened (hspaced : st.spaced = false) {c : Char} {name : List Char}
    (hc : isNameChar true c = true) (hname : ∀ d ∈ name, isNameChar false d = true)
    (hfresh : String.ofList (c :: name) ∉ st.names) :
    st.Reads ('(' :: '?' :: 'P' :: '<' :: (c :: name ++ ['>']))
      (st.opened (String.ofList (c :: name))) := by
  refine .of_step hspaced (by decide) fun rest _ => ?_
  have hrest : '?' :: 'P' :: '<' :: (c :: name ++ ['>']) ++ rest =
      '?' :: 'P' :: '<' :: (c :: name ++ '>' :: rest) := by simp
  rw [hrest, step_opened hspaced hc hname, if_neg hfresh]

/-- The header of a group without a capture and without flags is read, whatever follows. -/
theorem step_plain (hspaced : st.spaced = false) (rest : List Char) :
    st.step '(' ('?' :: ':' :: rest) = .ok (st.openGroup (.plain ⟨[], []⟩) st.spaced, rest) := by
  change st.groupHeader ('?' :: ':' :: rest) = _
  rw [groupHeader, skip_eq hspaced]
  rfl

theorem reads_closed (st : State) (name : String) (body : Ast) (hspaced : st.spaced = false) :
    ((st.opened name).push body).Reads [')'] (st.captured name body) :=
  .of_step hspaced (by decide) fun _ _ => rfl

end Signs

end Signpost.Regex.Parser.State
