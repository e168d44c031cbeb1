import Signpost.Proofs.Regex.Groups
import Signpost.Proofs.Regex.Matching

/-!
# The indices of groups

A capturing group gets the next index when its parenthesis is read, so the indices of an expression
lie between one and the number of its groups (`Parser.State.Indexed.run`). Neither elaboration nor
the writing out of repetitions makes up an index, and a match stores positions for these groups only
(`Expr.exists_group_of_matches`).
-/

namespace Signpost.Regex

theorem bind_eq_ok_iff {ε α β : Type} {x : Except ε α} {f : α → Except ε β} {b : β} :
    x >>= f = .ok b ↔ ∃ a, x = .ok a ∧ f a = .ok b := by
  cases x with
  | error fault => exact ⟨nofun, fun ⟨_, h, _⟩ => nomatch h⟩
  | ok a =>
    constructor
    · exact fun h => ⟨a, rfl, h⟩
    · rintro ⟨_, ⟨⟩, h⟩
      exact h

/-! ## Indices in trees -/

def GroupKind.indices : GroupKind → List Nat
  | .capture index _ => [index]
  | .plain _ => []

namespace Ast

mutual
/-- The indices of the capturing groups in the tree. -/
def indices : Ast → List Nat
  | .repetition _ _ _ body => body.indices
  | .group kind body => kind.indices ++ body.indices
  | .alternation branches => indicesAll branches
  | .concat parts => indicesAll parts
  | _ => []
def indicesAll : List Ast → List Nat
  | [] => []
  | ast :: rest => ast.indices ++ indicesAll rest
end

theorem mem_indicesAll {i : Nat} {asts : List Ast} :
    i ∈ indicesAll asts ↔ ∃ ast ∈ asts, i ∈ ast.indices := by
  induction asts with
  | nil => simp [indicesAll]
  | cons ast asts ih => simp [indicesAll, ih]

theorem mem_indices_ofParts {i : Nat} {parts : List Ast} :
    i ∈ (ofParts parts.reverse).indices ↔ i ∈ indicesAll parts := by
  have hparts : ∀ l : List Ast, (ofParts l).indices = indicesAll l := by
    intro l
    match l with
    | [] => rfl
    | [part] => simp [ofParts, indicesAll]
    | _ :: _ :: _ => rfl
  simp [hparts, mem_indicesAll]

theorem mem_indices_ofBranches {i : Nat} {branches : List Ast} :
    i ∈ (ofBranches branches.reverse).indices ↔ i ∈ indicesAll branches := by
  have hbranches : ∀ l : List Ast, (ofBranches l).indices = indicesAll l := by
    intro l
    match l with
    | [] => rfl
    | [branch] => simp [ofBranches, indicesAll]
    | _ :: _ :: _ => rfl
  simp [hbranches, mem_indicesAll]

end Ast

namespace Parser

/-! ## Indices of what is being read -/

def Level.indices (l : Level) : List Nat :=
  l.kind.toList.flatMap GroupKind.indices ++ (Ast.indicesAll l.branches ++ Ast.indicesAll l.parts)

namespace State

variable {st st' : State} {ast : Ast} {i : Nat} {c : Char} {rest rest' : List Char}

/-- The indices of all groups that have been opened. -/
def indices (st : State) : List Nat :=
  (st.level :: st.outer).flatMap Level.indices

/-- Groups are numbered from one to their count. -/
def Indexed (st : State) : Prop := ∀ i ∈ st.indices, 0 < i ∧ i ≤ st.captures

theorem mem_indices_push : i ∈ (st.push ast).indices ↔ i ∈ ast.indices ∨ i ∈ st.indices := by
  simp only [indices, push, Level.indices, Ast.indicesAll, List.flatMap_cons, List.mem_append]
  grind

theorem mem_indices_branch : i ∈ st.branch.indices ↔ i ∈ st.indices := by
  simp only [indices, branch, Level.indices, Ast.indicesAll, List.flatMap_cons, List.mem_append,
    Ast.mem_indices_ofParts]
  grind

theorem mem_indices_openGroup {kind : GroupKind} {spaced : Bool} :
    i ∈ (st.openGroup kind spaced).indices ↔ i ∈ kind.indices ∨ i ∈ st.indices := by
  simp only [indices, openGroup, Level.indices, Ast.indicesAll, List.flatMap_cons, List.mem_append,
    Option.toList, List.flatMap_nil, List.append_nil]

theorem mem_indices_closeGroup (h : st.closeGroup = .ok st') :
    (i ∈ st'.indices ↔ i ∈ st.indices) ∧ st'.captures = st.captures := by
  obtain ⟨⟨kind, branches, parts, outerSpaced⟩, outer, spaced, captures, names⟩ := st
  unfold closeGroup at h
  split at h
  · rename_i hkind houter
    obtain rfl := hkind
    obtain rfl := houter
    cases h
    refine ⟨?_, rfl⟩
    rw [mem_indices_push]
    simp only [indices, Level.indices, Level.toAst, Ast.indices, List.flatMap_cons, List.mem_append,
      Ast.mem_indices_ofBranches, Ast.indicesAll, Ast.mem_indices_ofParts, Option.toList,
      List.flatMap_nil, List.append_nil]
    grind
  · cases h

theorem mem_indices_repeatLast {lo : Nat} {hi : Option Nat} {greedy : Bool}
    (h : st.repeatLast lo hi greedy = .ok st') :
    (i ∈ st'.indices ↔ i ∈ st.indices) ∧ st'.captures = st.captures := by
  unfold repeatLast at h
  split at h
  · cases h
  · cases h
  · cases h
  · rename_i hparts
    cases h
    refine ⟨?_, rfl⟩
    simp only [indices, Level.indices, Ast.indicesAll, Ast.indices, hparts, List.flatMap_cons]

/-- What one sign can do to what the reader knows. -/
inductive Change (st : State) : State → Prop
  /-- A part without groups has been read. -/
  | push {ast : Ast} (h : ast.indices = []) : Change st (st.push ast)
  | branch : Change st st.branch
  | repeatLast {lo : Nat} {hi : Option Nat} {greedy : Bool} {st' : State}
      (h : st.repeatLast lo hi greedy = .ok st') : Change st st'
  | openCapture {name : Option String} {st' : State} (h : st.openCapture name = .ok st') :
      Change st st'
  | openPlain (change : FlagChange) (spaced : Bool) :
      Change st (st.openGroup (.plain change) spaced)
  | flags (change : FlagChange) (spaced : Bool) :
      Change st ({ st with spaced }.push (.flags change))
  | closeGroup {st' : State} (h : st.closeGroup = .ok st') : Change st st'

theorem Indexed.change (hst : st.Indexed) (h : st.Change st') : st'.Indexed := by
  cases h with
  | push h =>
    intro i hi
    rw [mem_indices_push, h] at hi
    exact hst i (hi.resolve_left List.not_mem_nil)
  | branch => exact fun i hi => hst i (mem_indices_branch.mp hi)
  | repeatLast h =>
    intro i hi
    obtain ⟨hmem, hcaptures⟩ := mem_indices_repeatLast (i := i) h
    rw [hcaptures]
    exact hst i (hmem.mp hi)
  | @openCapture name _ h =>
    have hopened : Indexed ({ st with captures := st.captures + 1 }.openGroup
        (.capture (st.captures + 1) name) st.spaced) := by
      intro i hi
      obtain hi | hi := mem_indices_openGroup.mp hi
      · obtain rfl := List.mem_singleton.mp hi
        exact ⟨Nat.succ_pos _, Nat.le_refl _⟩
      · obtain ⟨hpos, hle⟩ := hst i hi
        exact ⟨hpos, Nat.le_succ_of_le hle⟩
    unfold State.openCapture at h
    dsimp only at h
    split at h
    · cases h
      exact hopened
    · split at h
      · cases h
      · cases h
        exact hopened
  | openPlain change spaced =>
    exact fun i hi => hst i ((mem_indices_openGroup.mp hi).resolve_left List.not_mem_nil)
  | flags change spaced =>
    exact fun i hi => hst i ((mem_indices_push.mp hi).resolve_left List.not_mem_nil)
  | closeGroup h =>
    intro i hi
    obtain ⟨hmem, hcaptures⟩ := mem_indices_closeGroup (i := i) h
    rw [hcaptures]
    exact hst i (hmem.mp hi)

/-! ## Reading -/

theorem indices_toAst (piece : Piece) : piece.toAst.indices = [] := by
  cases piece <;> rfl

theorem indices_classBody {spaced negated : Bool} {fuel : Nat} : ∀ {stack : List ClassFrame}
    {items : List ClassSet} {s rest : List Char} {ast : Ast},
    classBody spaced negated fuel stack items s = .ok (ast, rest) → ast.indices = [] := by
  induction fuel with
  | zero => exact fun h => by cases h
  | succ fuel ih =>
    intro stack items s rest ast h
    unfold classBody at h
    dsimp only at h
    split at h
    · cases h
    · split at h
      · exact ih h
      · obtain ⟨⟨inner, first, after⟩, -, h⟩ := bind_eq_ok_iff.mp h
        exact ih h
    · split at h
      · exact ih h
      · cases h
        rfl
    · exact ih h
    · exact ih h
    · exact ih h
    · obtain ⟨⟨item, rest⟩, -, h⟩ := bind_eq_ok_iff.mp h
      exact ih h

theorem change_of_groupHeader (h : st.groupHeader rest = .ok (st', rest')) : st.Change st' := by
  unfold groupHeader at h
  dsimp only at h
  split at h
  · cases h
  · have hnamed : ∀ s, (groupName s >>= fun found =>
        st.openCapture (some found.1) >>= fun opened => .ok (opened, found.2)) =
          .ok (st', rest') → st.Change st' := by
      intro s h
      obtain ⟨⟨name, rest⟩, -, h⟩ := bind_eq_ok_iff.mp h
      obtain ⟨opened, hopened, h⟩ := bind_eq_ok_iff.mp h
      cases h
      exact .openCapture hopened
    split at h
    · exact hnamed _ h
    · exact hnamed _ h
    · obtain ⟨⟨change, rest⟩, -, h⟩ := bind_eq_ok_iff.mp h
      dsimp only at h
      split at h
      · cases h
        exact .openPlain _ _
      · split at h
        · cases h
        · cases h
          exact .flags _ _
    · obtain ⟨opened, hopened, h⟩ := bind_eq_ok_iff.mp h
      cases h
      exact .openCapture hopened

theorem change_of_step (h : st.step c rest = .ok (st', rest')) : st.Change st' := by
  have hrepeated : ∀ lo hi (greedy : Bool) (after : List Char),
      (st.repeatLast lo hi greedy >>= fun st' => .ok (st', after)) = .ok (st', rest') →
        st.Change st' := by
    intro lo hi greedy after h
    obtain ⟨repeated, hrepeated, h⟩ := bind_eq_ok_iff.mp h
    cases h
    exact .repeatLast hrepeated
  unfold step at h
  dsimp only at h
  split at h
  · exact change_of_groupHeader h
  · obtain ⟨closed, hclosed, h⟩ := bind_eq_ok_iff.mp h
    cases h
    exact .closeGroup hclosed
  · cases h
    exact .branch
  · obtain ⟨⟨ast, after⟩, hclass, h⟩ := bind_eq_ok_iff.mp h
    cases h
    obtain ⟨⟨negated, items, body⟩, -, hbody⟩ := bind_eq_ok_iff.mp hclass
    exact .push (indices_classBody hbody)
  · exact hrepeated _ _ _ _ h
  · exact hrepeated _ _ _ _ h
  · exact hrepeated _ _ _ _ h
  · obtain ⟨⟨⟨lo, hi⟩, after⟩, -, h⟩ := bind_eq_ok_iff.mp h
    exact hrepeated _ _ _ _ h
  · obtain ⟨⟨piece, after⟩, -, h⟩ := bind_eq_ok_iff.mp h
    cases h
    exact .push (indices_toAst piece)
  all_goals
    cases h
    exact .push rfl

theorem Indexed.run (hst : st.Indexed) {fuel : Nat} {s : List Char}
    (h : st.run fuel s = .ok st') : st'.Indexed := by
  induction fuel generalizing st s with
  | zero =>
    cases h
    exact hst
  | succ fuel ih =>
    unfold State.run at h
    split at h
    · cases h
      exact hst
    · obtain ⟨⟨next, rest⟩, hstep, h⟩ := bind_eq_ok_iff.mp h
      exact ih (hst.change (change_of_step hstep)) h

theorem indexed_start : start.Indexed := nofun

/-- The finished expression has the groups of the outermost level. -/
theorem mem_indices_of_finish (h : st.finish = .ok ast) (hi : i ∈ ast.indices) :
    i ∈ st.indices := by
  unfold finish at h
  split at h
  · cases h
    rw [Level.toAst, Ast.mem_indices_ofBranches, Ast.indicesAll, List.mem_append,
      Ast.mem_indices_ofParts] at hi
    simp only [indices, Level.indices, List.flatMap_cons, List.mem_append]
    grind
  · cases h

end State

end Parser

/-! ## Indices of expressions -/

namespace Expr

variable {g : Nat × Option String}

theorem groups_repeated {lo : Nat} {hi : Option Nat} {greedy : Bool} {body : Expr}
    (h : g ∈ (repeated lo hi greedy body).groups) : g ∈ body.groups := by
  have hbounds : ∀ (lo : Nat) (hi : Option Nat), g ∈ (if lo = 0 ∧ hi = some 0 then empty
      else if lo = 1 ∧ hi = some 1 then body else repetition lo hi greedy body).groups →
        g ∈ body.groups := by
    intro lo hi h
    split at h
    · cases h
    · split at h <;> exact h
  exact hbounds _ _ h

theorem groups_alternatives (es : List Expr) : (alternatives es).groups = es.flatMap groups := by
  induction es with
  | nil => rfl
  | cons e es ih =>
    cases es with
    | nil => simp [alternatives]
    | cons e' es => exact congrArg (e.groups ++ ·) ih

end Expr

theorem Flags.exists_set_of_dot {f : Flags} {e : Expr} (h : f.dot = .ok e) : ∃ s, e = .set s := by
  unfold dot at h
  split at h
  · cases h
  · split at h
    · cases h
      exact ⟨_, rfl⟩
    · split at h <;> cases h <;> exact ⟨_, rfl⟩

namespace Ast

mutual
/-- The groups of an expression are those of the tree that it was made from. -/
theorem mem_indices_of_mem_groups {f f' : Flags} {e : Expr} {g : Nat × Option String}
    (hg : g ∈ e.groups) : ∀ ast : Ast, ast.elaborate f = .ok (e, f') → g.1 ∈ ast.indices
  | .empty, h | .flags _, h | .anchor _, h => by
    cases h
    cases hg
  | .dot, h => by
    obtain ⟨dot, hdot, h⟩ := bind_eq_ok_iff.mp h
    cases h
    obtain ⟨s, rfl⟩ := Flags.exists_set_of_dot hdot
    cases hg
  | .literal _, h | .property _ _, h | .letter _ _, h => by
    obtain ⟨_, -, h⟩ := bind_eq_ok_iff.mp h
    cases h
    cases hg
  | .bracket _ _, h => by
    obtain ⟨_, -, h⟩ := bind_eq_ok_iff.mp h
    obtain ⟨_, -, h⟩ := bind_eq_ok_iff.mp h
    cases h
    cases hg
  | .repetition _ _ _ body, h => by
    obtain ⟨_, hbody, h⟩ := bind_eq_ok_iff.mp h
    cases h
    exact mem_indices_of_mem_groups (Expr.groups_repeated hg) body hbody
  | .group (.capture index _) body, h => by
    obtain ⟨_, hbody, h⟩ := bind_eq_ok_iff.mp h
    cases h
    obtain rfl | hg := List.mem_cons.mp hg
    · exact List.mem_cons_self
    · exact List.mem_cons_of_mem index (mem_indices_of_mem_groups hg body hbody)
  | .group (.plain _) body, h => by
    obtain ⟨_, hbody, h⟩ := bind_eq_ok_iff.mp h
    cases h
    exact mem_indices_of_mem_groups hg body hbody
  | .alternation branches, h => by
    obtain ⟨_, hbranches, h⟩ := bind_eq_ok_iff.mp h
    cases h
    rw [Expr.groups_alternatives] at hg
    exact mem_indicesAll_of_mem_groups hg branches hbranches
  | .concat parts, h => by
    obtain ⟨_, hparts, h⟩ := bind_eq_ok_iff.mp h
    cases h
    rw [Expr.groups_sequence] at hg
    exact mem_indicesAll_of_mem_groups hg parts hparts
theorem mem_indicesAll_of_mem_groups {f f' : Flags} {es : List Expr} {g : Nat × Option String}
    (hg : g ∈ es.flatMap Expr.groups) : ∀ asts : List Ast,
      elaborateAll f asts = .ok (es, f') → g.1 ∈ indicesAll asts
  | [], h => by
    cases h
    cases hg
  | ast :: rest, h => by
    obtain ⟨_, hfirst, h⟩ := bind_eq_ok_iff.mp h
    obtain ⟨_, hrest, h⟩ := bind_eq_ok_iff.mp h
    cases h
    rw [indicesAll]
    rw [List.flatMap_cons] at hg
    obtain hg | hg := List.mem_append.mp hg
    · exact List.mem_append_left _ (mem_indices_of_mem_groups hg ast hfirst)
    · exact List.mem_append_right _ (mem_indicesAll_of_mem_groups hg rest hrest)
end

end Ast

/-! ## Stored positions -/

namespace Node

/-- The indices of the captures in the node. -/
def indices : Node → List Nat
  | .capture index body => index :: body.indices
  | .seq a b | .alt a b => a.indices ++ b.indices
  | .star _ body | .plus _ body => body.indices
  | _ => []

/-- A match stores the ends of captures of the node, nothing else. -/
theorem exists_index_of_matches {text : Array Char} {n : Node} {i j : Nat} {w : List (Nat × Nat)}
    (h : n.Matches text i j w) :
    ∀ e ∈ w, ∃ index ∈ n.indices, e.1 = 2 * index ∨ e.1 = 2 * index + 1 := by
  induction h with
  | empty | set | look | none => nofun
  | @capture index body i j w h ih =>
    intro e he
    simp only [List.mem_cons, List.mem_append, List.not_mem_nil, or_false] at he
    obtain rfl | he | rfl := he
    · exact ⟨index, List.mem_cons_self, .inr rfl⟩
    · obtain ⟨index', hmem, he⟩ := ih e he
      exact ⟨index', List.mem_cons_of_mem index hmem, he⟩
    · exact ⟨index, List.mem_cons_self, .inl rfl⟩
  | seq _ _ iha ihb =>
    intro e he
    obtain he | he := List.mem_append.mp he
    · obtain ⟨index, hmem, he⟩ := ihb e he
      exact ⟨index, List.mem_append_right _ hmem, he⟩
    · obtain ⟨index, hmem, he⟩ := iha e he
      exact ⟨index, List.mem_append_left _ hmem, he⟩
  | first _ ih =>
    intro e he
    obtain ⟨index, hmem, he⟩ := ih e he
    exact ⟨index, List.mem_append_left _ hmem, he⟩
  | second _ ih =>
    intro e he
    obtain ⟨index, hmem, he⟩ := ih e he
    exact ⟨index, List.mem_append_right _ hmem, he⟩
  | once _ ih => exact ih
  | more _ _ ih ihrest | again _ _ ih ihrest =>
    intro e he
    obtain he | he := List.mem_append.mp he
    · exact ihrest e he
    · exact ih e he

theorem mem_indices_optional {greedy : Bool} {n : Node} {i : Nat} :
    i ∈ (optional greedy n).indices ↔ i ∈ n.indices := by
  cases greedy <;> simp [optional, indices]

theorem mem_indices_copies {n tail : Node} {count i : Nat} (h : i ∈ (copies n count tail).indices) :
    i ∈ n.indices ∨ i ∈ tail.indices := by
  induction count with
  | zero => exact .inr h
  | succ count ih =>
    obtain h | h := List.mem_append.mp h
    · exact .inl h
    · exact ih h

theorem mem_indices_upTo {greedy : Bool} {n : Node} {count i : Nat}
    (h : i ∈ (upTo greedy n count).indices) : i ∈ n.indices := by
  induction count with
  | zero => cases h
  | succ count ih =>
    obtain h | h := List.mem_append.mp (mem_indices_optional.mp h)
    · exact h
    · exact ih h

theorem mem_indices_repeated {consumes greedy : Bool} {lo : Nat} {hi : Option Nat} {n : Node}
    {i : Nat} (h : i ∈ (repeated consumes lo hi greedy n).indices) : i ∈ n.indices := by
  unfold repeated at h
  split at h
  · split at h
    · exact h
    · have hbody : i ∈ (plus greedy n).indices := mem_indices_optional.mp h
      exact hbody
  · exact (mem_indices_copies h).elim id id
  · exact (mem_indices_copies h).elim id mem_indices_upTo

end Node

namespace Expr

theorem exists_group_of_mem_expand {i : Nat} (e : Expr) (h : i ∈ e.expand.indices) :
    ∃ g ∈ e.groups, g.1 = i := by
  induction e with
  | empty | set | look => cases h
  | capture index name body ih =>
    obtain rfl | h := List.mem_cons.mp h
    · exact ⟨_, List.mem_cons_self, rfl⟩
    · obtain ⟨g, hg, rfl⟩ := ih h
      exact ⟨g, List.mem_cons_of_mem _ hg, rfl⟩
  | repetition lo hi greedy body ih => exact ih (Node.mem_indices_repeated h)
  | seq a b iha ihb | alt a b iha ihb =>
    obtain h | h := List.mem_append.mp h
    · obtain ⟨g, hg, rfl⟩ := iha h
      exact ⟨g, List.mem_append_left _ hg, rfl⟩
    · obtain ⟨g, hg, rfl⟩ := ihb h
      exact ⟨g, List.mem_append_right _ hg, rfl⟩

/-- A match of an expression stores the ends of its groups, nothing else. -/
theorem exists_group_of_matches {text : Array Char} {e : Expr} {i j : Nat} {w : List (Nat × Nat)}
    (h : e.expand.Matches text i j w) :
    ∀ s ∈ w, ∃ g ∈ e.groups, s.1 = 2 * g.1 ∨ s.1 = 2 * g.1 + 1 := by
  intro s hs
  obtain ⟨index, hindex, hs⟩ := Node.exists_index_of_matches h s hs
  obtain ⟨g, hg, rfl⟩ := exists_group_of_mem_expand e hindex
  exact ⟨g, hg, hs⟩

end Expr

end Signpost.Regex
