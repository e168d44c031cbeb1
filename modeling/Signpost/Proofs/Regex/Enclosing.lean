import Signpost.Proofs.Regex.Indices
import Signpost.Proofs.Regex.Reading

/-!
# Texts that stay in their groups

A text that is put between the parentheses of a group can close the group itself. It is enclosed
(`Parser.State.Enclosed`) if a reader that gets through comes to the closing parenthesis with the
same groups open; then the group is read as one part (`Parser.State.Completes.of_opened`) from which
no flag gets out (`Ast.scoped_group`). Texts without parentheses, brackets, braces and backslashes
are enclosed (`Parser.State.enclosed_of_isPlain`).
-/

namespace Signpost.Regex

namespace Parser.State

variable {st st' final : State} {p rest sub name : List Char} {c : Char}

/-! ## Reading to the end -/

/-- From the state, the text can be read to its end, and `final` is what the reader knows then. -/
def Completes (st : State) (s : List Char) (final : State) : Prop :=
  ∃ fuel, s.length ≤ fuel ∧ st.run fuel s = .ok final

namespace Completes

theorem of_reads (h : st.Completes (p ++ rest) final) (hreads : st.Reads p st')
    (hrest : rest.head? ≠ some '?') : st'.Completes rest final := by
  obtain ⟨fuel, hfuel, hrun⟩ := h
  rw [List.length_append] at hfuel
  obtain ⟨fuel', hfuel', heq⟩ := hreads.run fuel rest hrest hfuel
  exact ⟨fuel', hfuel', heq ▸ hrun⟩

theorem of_step {x : Except Fault (State × List Char)} {s : List Char}
    (h : st.Completes (c :: s) final) (hskip : skip st.spaced (c :: s) = c :: s)
    (hstep : st.step c s = x) (hle : ∀ st' rest, x = .ok (st', rest) → rest.length ≤ s.length) :
    ∃ st' rest, x = .ok (st', rest) ∧ st'.Completes rest final := by
  obtain ⟨fuel, hfuel, hrun⟩ := h
  cases fuel with
  | zero => cases hfuel
  | succ fuel =>
    rw [State.run, hskip] at hrun
    obtain ⟨⟨st', rest⟩, hok, hrun⟩ := bind_eq_ok_iff.mp hrun
    rw [hstep] at hok
    have hlength := hle st' rest hok
    rw [List.length_cons] at hfuel
    exact ⟨st', rest, hok, fuel, by omega, hrun⟩

theorem eq_of_nil (h : st.Completes [] final) : final = st := by
  obtain ⟨fuel, -, hrun⟩ := h
  cases fuel with
  | zero => exact (Except.ok.inj hrun).symm
  | succ fuel =>
    rw [State.run, skip_nil] at hrun
    exact (Except.ok.inj hrun).symm

/-- A header with a name that is read opens the group. -/
theorem of_named (h : st.Completes ('(' :: ('?' :: 'P' :: '<' :: (c :: name ++ '>' :: rest))) final)
    (hspaced : st.spaced = false) (hc : isNameChar true c = true)
    (hname : ∀ d ∈ name, isNameChar false d = true) :
    (st.opened (String.ofList (c :: name))).Completes rest final := by
  have hle : ∀ st' rest', (if String.ofList (c :: name) ∈ st.names
      then .error Fault.duplicateGroupName
      else .ok (st.opened (String.ofList (c :: name)), rest)) = Except.ok (st', rest') →
        rest'.length ≤ ('?' :: 'P' :: '<' :: (c :: name ++ '>' :: rest)).length := by
    intro st' rest' heq
    split at heq
    · cases heq
    · cases heq
      simp
      omega
  obtain ⟨st', rest', hstep, hopened⟩ :=
    h.of_step (skip_eq hspaced _) (step_opened hspaced hc hname rest) hle
  split at hstep
  · cases hstep
  · cases hstep
    exact hopened

theorem of_plain (h : st.Completes ('(' :: ('?' :: ':' :: rest)) final)
    (hspaced : st.spaced = false) :
    (st.openGroup (.plain ⟨[], []⟩) st.spaced).Completes rest final := by
  obtain ⟨st', rest', hstep, hopened⟩ :=
    h.of_step (skip_eq hspaced _) (step_plain hspaced rest) (by
      rintro _ _ ⟨⟩
      exact Nat.le_add_right _ 2)
  cases hstep
  exact hopened

end Completes

/-! ## Groups around sub-patterns -/

/-- The same groups are open in both states. -/
structure SameGroups (st st' : State) : Prop where
  kind_eq : st'.level.kind = st.level.kind
  outerSpaced_eq : st'.level.outerSpaced = st.level.outerSpaced
  outer_eq : st'.outer = st.outer

/-- Where the sub-pattern stands in a group and the whole text can be read, the reader comes to the
parenthesis behind the sub-pattern, and no group has been closed or left open since. -/
def Enclosed (sub : List Char) : Prop :=
  ∀ (st : State) (rest : List Char) (final : State), st.spaced = false →
    st.Completes (sub ++ ')' :: rest) final →
      ∃ st' : State, st'.Completes (')' :: rest) final ∧ st.SameGroups st'

/-- What can be read in any group without leaving it is enclosed. -/
theorem enclosed_of_reads
    (h : ∀ st : State, st.spaced = false → ∃ st', st.Reads sub st' ∧ st.SameGroups st') :
    Enclosed sub := by
  intro st rest final hspaced hcompletes
  obtain ⟨st', hreads, hsame⟩ := h st hspaced
  exact ⟨st', hcompletes.of_reads hreads (by simp), hsame⟩

/-! ## Plain sub-patterns -/

/-- The sign neither opens nor closes anything and is read alone, or with a `?` behind it. -/
def isPlain (c : Char) : Bool := !"()[\\\x7b".toList.contains c

theorem SameGroups.refl (st : State) : st.SameGroups st := ⟨rfl, rfl, rfl⟩

theorem SameGroups.trans {st'' : State} (h : st.SameGroups st') (h' : st'.SameGroups st'') :
    st.SameGroups st'' :=
  ⟨h'.kind_eq.trans h.kind_eq, h'.outerSpaced_eq.trans h.outerSpaced_eq,
    h'.outer_eq.trans h.outer_eq⟩

theorem sameGroups_of_repeatLast {lo : Nat} {hi : Option Nat} {greedy : Bool}
    (h : st.repeatLast lo hi greedy = .ok st') : st.SameGroups st' ∧ st'.spaced = st.spaced := by
  unfold repeatLast at h
  split at h
  · cases h
  · cases h
  · cases h
  · cases h
    exact ⟨⟨rfl, rfl, rfl⟩, rfl⟩

theorem sameGroups_of_step {s : List Char} (hc : isPlain c = true)
    (h : st.step c s = .ok (st', rest)) :
    (st.SameGroups st' ∧ st'.spaced = st.spaced) ∧ (rest = s ∨ s = '?' :: rest) := by
  have hrepeated : ∀ lo hi, (st.repeatLast lo hi (greed s).1 >>= fun st' =>
      .ok (st', (greed s).2)) = .ok (st', rest) →
        (st.SameGroups st' ∧ st'.spaced = st.spaced) ∧ (rest = s ∨ s = '?' :: rest) := by
    intro lo hi h
    obtain ⟨repeated, hrepeated, h⟩ := bind_eq_ok_iff.mp h
    cases h
    refine ⟨sameGroups_of_repeatLast hrepeated, ?_⟩
    unfold greed
    split
    · exact .inr rfl
    · exact .inl rfl
  unfold step at h
  dsimp only at h
  split at h
  -- the signs that are not plain
  · cases hc
  · cases hc
  · cases h
    exact ⟨⟨⟨rfl, rfl, rfl⟩, rfl⟩, .inl rfl⟩
  · cases hc
  · exact hrepeated _ _ h
  · exact hrepeated _ _ h
  · exact hrepeated _ _ h
  · cases hc
  · cases hc
  all_goals
    cases h
    exact ⟨⟨⟨rfl, rfl, rfl⟩, rfl⟩, .inl rfl⟩

/-- A sub-pattern of plain signs is enclosed. -/
theorem enclosed_of_isPlain (h : ∀ c ∈ sub, isPlain c = true) : Enclosed sub := by
  intro st rest final hspaced hcompletes
  -- on the length, because a lazy repetition takes two signs
  induction hn : sub.length using Nat.strongRecOn generalizing sub st with
  | _ n ih =>
    subst hn
    cases sub with
    | nil => exact ⟨st, hcompletes, .refl st⟩
    | cons c sub =>
      obtain ⟨hc, hsub⟩ := List.forall_mem_cons.mp h
      have hle : ∀ st' after, st.step c (sub ++ ')' :: rest) = .ok (st', after) →
          after.length ≤ (sub ++ ')' :: rest).length := by
        intro st' after hok
        obtain ⟨-, rfl | hlazy⟩ := sameGroups_of_step hc hok
        · exact Nat.le_refl _
        · rw [hlazy]
          exact Nat.le_succ _
      obtain ⟨st', after, hstep, hafter⟩ := hcompletes.of_step (skip_eq hspaced _) rfl hle
      obtain ⟨⟨hsame, hspaced'⟩, hread⟩ := sameGroups_of_step hc hstep
      rw [hspaced] at hspaced'
      have hmore : ∀ sub', sub'.length < (c :: sub).length → (∀ c ∈ sub', isPlain c = true) →
          after = sub' ++ ')' :: rest →
            ∃ inner : State, inner.Completes (')' :: rest) final ∧ st.SameGroups inner := by
        rintro sub' hlt hplain rfl
        obtain ⟨inner, hinner, hsame'⟩ := ih _ hlt hplain st' hspaced' hafter rfl
        exact ⟨inner, hinner, hsame.trans hsame'⟩
      obtain hread | hlazy := hread
      · exact hmore sub (Nat.lt_succ_self _) hsub hread
      · cases sub with
        | nil => cases hlazy
        | cons d sub =>
          cases hlazy
          exact hmore sub (Nat.lt_add_of_pos_right Nat.two_pos) (List.forall_mem_cons.mp hsub).2 rfl

/-! ## Groups around enclosed sub-patterns -/

/-- The state with the parts read, in the same group. -/
structure Adds (st : State) (asts : List Ast) (st' : State) : Prop where
  spaced_eq : st'.spaced = false
  level_eq : st'.level = { st.level with parts := asts.reverse ++ st.level.parts }

theorem Adds.append {st'' : State} {asts asts' : List Ast} (h : st.Adds asts st')
    (h' : st'.Adds asts' st'') : st.Adds (asts ++ asts') st'' where
  spaced_eq := h'.spaced_eq
  level_eq := by
    rw [h'.level_eq, h.level_eq, List.reverse_append, List.append_assoc]

/-- An enclosed sub-pattern behind the header of a group is read as one group. -/
theorem Completes.of_opened {kind : GroupKind} {opened : State}
    (h : opened.Completes (sub ++ ')' :: rest) final) (hsub : Enclosed sub)
    (hlevel : opened.level = ⟨some kind, [], [], false⟩)
    (houter : opened.outer = st.level :: st.outer) (hspaced : opened.spaced = false) :
    ∃ st' body, st'.Completes rest final ∧ st.Adds [.group kind body] st' := by
  obtain ⟨inner, hcompletes, hsame⟩ := hsub opened rest final hspaced h
  have hskip : skip inner.spaced (')' :: rest) = ')' :: rest := by
    unfold skip
    split <;> rfl
  have hkind : inner.level.kind = some kind := by rw [hsame.kind_eq, hlevel]
  have houterSpaced : inner.level.outerSpaced = false := by rw [hsame.outerSpaced_eq, hlevel]
  have hclose : inner.closeGroup = .ok
      ({ inner with level := st.level, outer := st.outer, spaced := false }.push
        (.group kind inner.level.toAst)) := by
    simp only [closeGroup, hkind, hsame.outer_eq, houter, houterSpaced]
  have hstep : inner.step ')' rest = .ok
      ({ inner with level := st.level, outer := st.outer, spaced := false }.push
        (.group kind inner.level.toAst), rest) := by
    change (inner.closeGroup).bind (fun closed => .ok (closed, rest)) = _
    rw [hclose]
    rfl
  obtain ⟨st', rest', heq, hrest⟩ := hcompletes.of_step hskip hstep (by
    rintro _ _ ⟨⟩
    exact Nat.le_refl _)
  cases heq
  exact ⟨_, inner.level.toAst, hrest, rfl, rfl⟩

end Parser.State

/-! ## Flags that do not get out -/

namespace Ast

/-- The tree leaves the flags as they are at the start of an expression. -/
def Scoped (ast : Ast) : Prop := ∀ e f, ast.elaborate {} = .ok (e, f) → f = {}

theorem scoped_group (kind : GroupKind) (body : Ast) : (Ast.group kind body).Scoped := by
  intro e f h
  cases kind <;>
  · obtain ⟨_, -, h⟩ := bind_eq_ok_iff.mp h
    cases h
    rfl

theorem elaborateAll_append {asts tail : List Ast} {es : List Expr} {f : Flags}
    (hasts : ∀ ast ∈ asts, ast.Scoped) (h : elaborateAll {} (asts ++ tail) = .ok (es, f)) :
    ∃ front back, es = front ++ back ∧ elaborateAll {} tail = .ok (back, f) := by
  induction asts generalizing es with
  | nil => exact ⟨[], es, rfl, h⟩
  | cons ast asts ih =>
    obtain ⟨hast, hasts⟩ := List.forall_mem_cons.mp hasts
    obtain ⟨⟨e, f'⟩, hfirst, h⟩ := bind_eq_ok_iff.mp h
    obtain rfl := hast e f' hfirst
    obtain ⟨⟨es', f'⟩, hrest, h⟩ := bind_eq_ok_iff.mp h
    cases h
    obtain ⟨front, back, rfl, htail⟩ := ih hasts hrest
    exact ⟨e :: front, back, rfl, htail⟩

end Ast

end Signpost.Regex
