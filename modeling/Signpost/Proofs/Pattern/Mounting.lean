import Signpost.Proofs.Pattern.Translation

/-!
# The regular expression of a mount

A mount is translated to the same atoms as a page, and behind them stands a group for the suffix: it
takes nothing, or a slash and what follows on the line. The group is the last one of the expression
(`Pattern.compile_mount`).
-/

namespace Signpost

open Regex (Ast Expr)
open Regex.Parser (State)

/-! ## Reading the suffix group -/

namespace Regex.Parser.State

variable {st : State}

/-- The state behind the parenthesis of a group without a name. -/
def unnamed (st : State) : State :=
  { st with captures := st.captures + 1 }.openGroup (.capture (st.captures + 1) none) st.spaced

theorem reads_unnamed (hspaced : st.spaced = false) : st.Reads ['('] st.unnamed := by
  refine .of_step hspaced (by decide) fun rest hrest => ?_
  have hheader : st.groupHeader rest = .ok (st.unnamed, rest) := by
    have hlook : isLookAround rest = false := by
      cases rest with
      | nil => rfl
      | cons c rest =>
        have hc : ('?' == c) = false := beq_eq_false_iff_ne.mpr fun h => hrest (h ▸ rfl)
        simp [isLookAround, List.isPrefixOf, hc]
    rw [groupHeader, skip_eq hspaced]
    simp only [Bool.false_eq_true, if_false, hlook]
    split
    · exact absurd rfl hrest
    · exact absurd rfl hrest
    · exact absurd rfl hrest
    · rfl
  exact hheader

theorem reads_branch (hspaced : st.spaced = false) : st.Reads ['|'] st.branch :=
  .of_step hspaced (by decide) fun _ _ => rfl

/-- The group for the suffix as written; `index` is its index. -/
def suffixAst (index : Nat) : Ast :=
  .group (.capture index none)
    (.alternation [.empty, .concat [.literal ⟨'/', false⟩, .repetition 0 none true .dot]])

/-- The state behind the suffix group. -/
def suffixed (st : State) : State :=
  { st with captures := st.captures + 1 }.push (suffixAst (st.captures + 1))

theorem reads_suffix (hspaced : st.spaced = false) : st.Reads "(|/.*)".toList st.suffixed := by
  let st₁ := st.unnamed.branch
  let st₂ := st₁.push (.literal ⟨'/', false⟩)
  have hspaced₁ : st₁.spaced = false := hspaced
  have hspaced₂ : st₂.spaced = false := hspaced
  have hopen : st.Reads ['('] st.unnamed := reads_unnamed hspaced
  have hbranch : st.unnamed.Reads ['|'] st₁ := reads_branch hspaced₁
  have hslash : st₁.Reads (escape ['/']) st₂ := reads_escape hspaced₁ '/'
  have hdot : st₂.Reads ['.'] (st₂.push .dot) := reads_dot hspaced₂
  have hstar : (st₂.push .dot).Reads ['*'] (st₂.push (.repetition 0 none true .dot)) :=
    reads_star hspaced₂ nofun nofun
  have hclose : (st₂.push (.repetition 0 none true .dot)).Reads [')'] st.suffixed :=
    .of_step hspaced₂ (by decide) fun _ _ => rfl
  have hsource :
      "(|/.*)".toList = ['('] ++ (['|'] ++ (escape ['/'] ++ (['.'] ++ (['*'] ++ [')'])))) := by
    decide
  rw [hsource]
  exact hopen.append (hbranch.append (hslash.append (hdot.append (hstar.append hclose))))

end Regex.Parser.State

namespace Pattern

open Unicode (CharSet)
open Regex.Parser.State (suffixAst)

namespace Atom

/-! ## The groups of the atoms -/

/-- How many groups the atoms have. -/
def groupCount (atoms : List Atom) : Nat := atoms.foldr (fun a n => a.groups + n) 0

theorem groupCount_cons (a : Atom) (atoms : List Atom) :
    groupCount (a :: atoms) = a.groups + groupCount atoms := rfl

theorem captures_afterAll (st : State) (atoms : List Atom) :
    (afterAll st atoms).captures = st.captures + groupCount atoms := by
  induction atoms generalizing st with
  | nil => rfl
  | cons a atoms ih =>
    rw [afterAll, List.foldl_cons, ← afterAll, ih, captures_after, groupCount_cons, Nat.add_assoc]

/-! ## The whole expression -/

def mountParts (atoms : List Atom) : List Ast :=
  .anchor .lineStart ::
    (asts 1 atoms ++ [suffixAst (groupCount atoms + 1), .anchor .lineEnd])

/-- The expression for the suffix; `index` is that of its group. -/
def suffixExpr (index : Nat) : Expr :=
  .capture index none (.alt .empty
    (.seq (.set (CharSet.single '/')) (.repetition 0 none true (.set restSet))))

/-- The parts of the expression: the atoms and the suffix after them, from the start to the end of
the text. -/
def mountExprs (atoms : List Atom) : List Expr :=
  .look .textStart ::
    (exprs 1 atoms ++ [suffixExpr (groupCount atoms + 1), .look .textEnd])

def mountExpr (atoms : List Atom) : Expr := .sequence (mountExprs atoms)

theorem reads_mountTail {st : State} (hspaced : st.spaced = false) :
    st.Reads Mode.mount.tail (st.suffixed.push (.anchor .lineEnd)) := by
  have hsuffix : st.Reads "(|/.*)".toList st.suffixed := State.reads_suffix hspaced
  have hend : st.suffixed.Reads ['$'] (st.suffixed.push (.anchor .lineEnd)) :=
    State.reads_lineEnd hspaced
  have htail : Mode.mount.tail = "(|/.*)".toList ++ ['$'] := by decide
  rw [htail]
  exact hsuffix.append hend

theorem reads_mount (atoms : List Atom) (h : Named [] atoms) :
    ∃ st, State.start.Reads (source .mount (atoms.map token)) st ∧
      st.level = ⟨none, [], (mountParts atoms).reverse, false⟩ := by
  let st₁ := State.start.push (.anchor .lineStart)
  let st₂ := afterAll st₁ atoms
  have hcaptures : st₂.captures = groupCount atoms :=
    (captures_afterAll st₁ atoms).trans (Nat.zero_add _)
  have hlevel : st₂.level = ⟨none, [], (asts 1 atoms).reverse ++ [.anchor .lineStart], false⟩ :=
    level_afterAll st₁ atoms
  have hstart : State.start.Reads ['^'] st₁ := State.reads_lineStart rfl
  have hatoms : st₁.Reads (atoms.flatMap fun a => a.token.source) st₂ :=
    reads_sources atoms st₁ [] rfl rfl h
  have htail : st₂.Reads Mode.mount.tail _ := reads_mountTail (spaced_afterAll st₁ atoms)
  have hsource : source .mount (atoms.map token) =
      ['^'] ++ (atoms.flatMap fun a => a.token.source) ++ Mode.mount.tail := by
    rw [source, List.flatMap_map]
    rfl
  refine ⟨_, hsource ▸ (hstart.append hatoms).append htail, ?_⟩
  simp [State.suffixed, State.push, hlevel, hcaptures, mountParts]

theorem depth_mountParts_le (atoms : List Atom) :
    (Ast.concat (mountParts atoms)).depth ≤ Regex.nestLimit := by
  have hall := depthAll_asts_le atoms [suffixAst (groupCount atoms + 1), .anchor .lineEnd]
    (Nat.le_succ 3) (by simp [suffixAst, Ast.depthAll, Ast.depth]) 1
  simp only [Ast.depth, mountParts, Ast.depthAll, Regex.nestLimit]
  omega

theorem parse_mount (atoms : List Atom) (h : Named [] atoms) :
    Ast.parse (source .mount (atoms.map token)) = .ok (.concat (mountParts atoms)) := by
  obtain ⟨st, hread, hlevel⟩ := reads_mount atoms h
  refine parse_of_reads hread hlevel ?_ (depth_mountParts_le atoms)
  unfold mountParts
  cases asts 1 atoms <;> rfl

theorem elaborate_mountParts (atoms : List Atom) :
    (Ast.concat (mountParts atoms)).elaborate {} = .ok (mountExpr atoms, {}) := by
  have htail : Ast.elaborateAll {} [suffixAst (groupCount atoms + 1), .anchor .lineEnd] =
      .ok ([suffixExpr (groupCount atoms + 1), .look .textEnd], {}) := rfl
  have hparts : Ast.elaborateAll {} (mountParts atoms) = .ok (mountExprs atoms, {}) := by
    rw [mountParts, Ast.elaborateAll]
    change (Ast.elaborateAll {} (asts 1 atoms ++ _)).bind _ = _
    rw [elaborateAll_asts atoms _ _ htail 1]
    rfl
  rw [Ast.elaborate, hparts]
  rfl

end Atom

/-- A mount without sub-patterns compiles to the expression for its atoms and the suffix, unless the
machine for that is too large. -/
theorem compile_mount {text : String} {atoms : List Atom}
    (htokens : tokens [] (normalize .mount text.toList) = .ok (atoms.map Atom.token))
    (h : Atom.Named [] atoms) :
    compile .mount text =
      if (Atom.mountExpr atoms).weight ≤ Regex.sizeLimit then
        .ok ⟨text, .mount, .ofExpr (String.ofList (source .mount (atoms.map Atom.token)))
          (Atom.mountExpr atoms)⟩
      else .error (.invalidRegex text .tooLarge) :=
  compile_of_parse htokens (Atom.parse_mount atoms h) (Atom.elaborate_mountParts atoms)

end Pattern

end Signpost
