import Signpost.Pattern.Basic
import Signpost.Proofs.Regex.Reading
import Signpost.Proofs.Text

/-!
# The regular expression of a simple pattern

A pattern without sub-patterns is a list of atoms. The regular expression that it is translated to
is read back as the atoms, one part for each (`Atom.reads_source`); nothing in a literal is taken
for a sign. So the pattern compiles, unless the machine is too large, to the expression that one
would write down for the atoms (`Pattern.compile_exact`).
-/

namespace Signpost.Pattern

open Unicode (CharSet)
open Regex (Ast Expr)
open Regex.Parser (State)

/-! ## Sources of groups -/

namespace Token

theorem source_named (name : List Char) (sub : Option (List Char)) : (named name sub).source =
    '(' :: '?' :: 'P' :: '<' :: (name ++ '>' :: (sub.getD segmentSource ++ [')'])) := by
  have hopening : "(?P<".toList = ['(', '?', 'P', '<'] := by decide
  change "(?P<".toList ++ name ++ ['>'] ++ sub.getD segmentSource ++ [')'] = _
  simp [hopening]

theorem source_anonymous (sub : List Char) :
    (anonymous sub).source = '(' :: '?' :: ':' :: (sub ++ [')']) := by
  have hopening : "(?:".toList = ['(', '?', ':'] := by decide
  change "(?:".toList ++ sub ++ [')'] = _
  simp [hopening]

end Token

/-! ## Atoms -/

/-- A token without a sub-pattern. -/
inductive Atom where
  | char (c : Char)
  | segment
  | rest
  | capture (name : List Char)
  deriving DecidableEq, Repr

namespace Atom

def token : Atom → Token
  | char c => .char c
  | segment => .segment
  | rest => .rest
  | capture name => .named name none

/-- What the atoms name can be captured: the names are valid, and none is used twice or among those
that have been used before. -/
def Named : (names : List (List Char)) → List Atom → Prop
  | _, [] => True
  | names, capture name :: atoms => isName name = true ∧ name ∉ names ∧ Named (name :: names) atoms
  | names, _ :: atoms => Named names atoms

def groups : Atom → Nat
  | capture _ => 1
  | _ => 0

/-- The expression for a text without a slash, as written. -/
def segmentAst : Ast := .repetition 1 none true (.bracket true (.literal ⟨'/', false⟩))

/-- The expression for the atom as written; `index` is that of the next group. -/
def ast (index : Nat) : Atom → Ast
  | char c => .literal ⟨c, false⟩
  | segment => segmentAst
  | rest => .repetition 1 none true .dot
  | capture name => .group (.capture index (some (String.ofList name))) segmentAst

def asts (index : Nat) : List Atom → List Ast
  | [] => []
  | a :: atoms => a.ast index :: asts (index + a.groups) atoms

def segmentSet : CharSet := (CharSet.single '/').complement

def restSet : CharSet := (CharSet.single '\n').complement

def expr (index : Nat) : Atom → Expr
  | char c => .set (CharSet.single c)
  | segment => .repetition 1 none true (.set segmentSet)
  | rest => .repetition 1 none true (.set restSet)
  | capture name =>
    .capture index (some (String.ofList name)) (.repetition 1 none true (.set segmentSet))

def exprs (index : Nat) : List Atom → List Expr
  | [] => []
  | a :: atoms => a.expr index :: exprs (index + a.groups) atoms

/-! ## Reading the translation back -/

/-- The reader after the source of the atom. -/
def after (st : State) : Atom → State
  | capture name => st.captured (String.ofList name) segmentAst
  | a => st.push (a.ast (st.captures + 1))

def afterAll (st : State) (atoms : List Atom) : State := atoms.foldl after st

@[simp]
theorem spaced_after (st : State) (a : Atom) : (after st a).spaced = st.spaced := by
  cases a <;> rfl

@[simp]
theorem captures_after (st : State) (a : Atom) :
    (after st a).captures = st.captures + a.groups := by
  cases a <;> rfl

theorem level_after (st : State) (a : Atom) :
    (after st a).level = (st.push (a.ast (st.captures + 1))).level := by
  cases a <;> rfl

@[simp]
theorem spaced_afterAll (st : State) (atoms : List Atom) :
    (afterAll st atoms).spaced = st.spaced := by
  induction atoms generalizing st with
  | nil => rfl
  | cons a atoms ih => rw [afterAll, List.foldl_cons, ← afterAll, ih, spaced_after]

theorem level_afterAll (st : State) (atoms : List Atom) :
    (afterAll st atoms).level =
      { st.level with parts := (asts (st.captures + 1) atoms).reverse ++ st.level.parts } := by
  induction atoms generalizing st with
  | nil => rfl
  | cons a atoms ih =>
    rw [afterAll, List.foldl_cons, ← afterAll, ih, level_after, captures_after, asts,
      List.reverse_cons, List.append_assoc, Nat.add_right_comm]
    rfl

theorem isNameChar_of_isName {c : Char} {name : List Char} (h : isName (c :: name) = true) :
    Regex.Parser.isNameChar true c = true ∧
      ∀ d ∈ name, Regex.Parser.isNameChar false d = true := by
  simp only [isName, Bool.and_eq_true, Bool.or_eq_true, beq_iff_eq, List.all_eq_true] at h
  obtain ⟨hc, hname⟩ := h
  refine ⟨?_, fun d hd => ?_⟩
  · obtain hc | rfl := hc
    · have hlt : c.toNat < 128 := by
        have hrange := Text.toNat_of_isAlphanum ((Text.isAlphanum_iff c).mpr (.inl hc))
        omega
      simp [Regex.Parser.isNameChar, hlt, hc]
    · decide
  · obtain hd | rfl := hname d hd
    · have hlt : d.toNat < 128 := by
        have hrange := Text.toNat_of_isAlphanum hd
        omega
      obtain hd | hd := (Text.isAlphanum_iff d).mp hd <;> simp [Regex.Parser.isNameChar, hlt, hd]
    · decide

theorem reads_segment {st : State} (hspaced : st.spaced = false) :
    st.Reads segmentSource (st.push segmentAst) :=
  (State.reads_notSlash hspaced).append (State.reads_plus hspaced nofun nofun)

/-- The source of an atom is read as the expression for the atom. -/
theorem reads_source {st : State} (hspaced : st.spaced = false) (a : Atom)
    (hname : ∀ name, a = capture name → isName name = true ∧ String.ofList name ∉ st.names) :
    st.Reads a.token.source (after st a) := by
  cases a with
  | char c => exact State.reads_escape hspaced c
  | segment => exact reads_segment hspaced
  | rest =>
    exact (State.reads_dot hspaced).append (State.reads_plus hspaced nofun nofun)
  | capture name =>
    obtain ⟨hvalid, hfresh⟩ := hname name rfl
    cases name with
    | nil => cases hvalid
    | cons c name =>
      obtain ⟨hc, hrest⟩ := isNameChar_of_isName hvalid
      have hopen := State.reads_opened hspaced hc hrest hfresh
      have hbody : (st.opened (String.ofList (c :: name))).Reads segmentSource _ :=
        reads_segment hspaced
      have hclose := State.reads_closed st (String.ofList (c :: name)) segmentAst hspaced
      have hsource : (capture (c :: name)).token.source =
          '(' :: '?' :: 'P' :: '<' :: (c :: name ++ ['>']) ++ segmentSource ++ [')'] := by
        rw [token, Token.source_named]
        simp
      rw [hsource]
      exact (hopen.append hbody).append hclose

theorem reads_sources (atoms : List Atom) : ∀ (st : State) names, st.spaced = false →
    st.names = names.map String.ofList → Named names atoms →
      st.Reads (atoms.flatMap fun a => a.token.source) (afterAll st atoms) := by
  induction atoms with
  | nil => exact fun st _ _ _ _ => .nil st
  | cons a atoms ih =>
    intro st names hspaced hnames hnamed
    rw [List.flatMap_cons]
    have hrest : ∀ names', (after st a).names = names'.map String.ofList → Named names' atoms →
        (after st a).Reads (atoms.flatMap fun a => a.token.source) (afterAll (after st a) atoms) :=
      fun names' => ih _ names' ((spaced_after st a).trans hspaced)
    cases a with
    | capture name =>
      obtain ⟨hvalid, hfresh, hnamed⟩ := hnamed
      have hnew : String.ofList name ∉ st.names := by
        rw [hnames]
        intro hmem
        obtain ⟨name', hname', heq⟩ := List.mem_map.mp hmem
        rw [String.ofList_injective heq] at hname'
        exact hfresh hname'
      refine (reads_source hspaced (capture name) ?_).append
        (hrest (name :: names) (congrArg (String.ofList name :: ·) hnames) hnamed)
      rintro _ ⟨⟩
      exact ⟨hvalid, hnew⟩
    | char | segment | rest =>
      exact (reads_source hspaced _ (by rintro _ ⟨⟩)).append (hrest names hnames hnamed)

/-! ## Nesting -/

theorem depth_ast_le (index : Nat) (a : Atom) : (a.ast index).depth ≤ 3 := by
  cases a <;> simp [ast, segmentAst, Ast.depth, Regex.ClassSet.depth]

theorem depthAll_asts_le (atoms : List Atom) (tail : List Ast) {n : Nat} (hn : 3 ≤ n)
    (h : Ast.depthAll tail ≤ n) : ∀ index, Ast.depthAll (asts index atoms ++ tail) ≤ n := by
  induction atoms with
  | nil => exact fun _ => h
  | cons a atoms ih =>
    intro index
    rw [asts, List.cons_append, Ast.depthAll]
    exact Nat.max_le.mpr ⟨Nat.le_trans (depth_ast_le index a) hn, ih _⟩

/-! ## Elaboration -/

theorem elaborate_ast (index : Nat) (a : Atom) :
    (a.ast index).elaborate {} = .ok (a.expr index, {}) := by
  cases a <;> rfl

theorem elaborateAll_asts (atoms : List Atom) (tail : List Ast) (es : List Expr)
    (h : Ast.elaborateAll {} tail = .ok (es, {})) : ∀ index,
      Ast.elaborateAll {} (asts index atoms ++ tail) = .ok (exprs index atoms ++ es, {}) := by
  induction atoms with
  | nil => exact fun _ => h
  | cons a atoms ih =>
    intro index
    rw [asts, exprs, List.cons_append, Ast.elaborateAll, elaborate_ast]
    change (Ast.elaborateAll {} (asts (index + a.groups) atoms ++ tail)).bind _ = _
    rw [ih]
    rfl

/-! ## The whole expression -/

def exactParts (atoms : List Atom) : List Ast :=
  .anchor .lineStart ::
    (asts 1 atoms ++ [.repetition 0 none true (.literal ⟨'/', false⟩), .anchor .lineEnd])

/-- The parts of the expression: the atoms and slashes after them, from the start to the end of the
text. -/
def exactExprs (atoms : List Atom) : List Expr :=
  .look .textStart ::
    (exprs 1 atoms ++ [.repetition 0 none true (.set (CharSet.single '/')), .look .textEnd])

def exactExpr (atoms : List Atom) : Expr := .sequence (exactExprs atoms)

theorem reads_exactTail {st : State} (hspaced : st.spaced = false) :
    st.Reads Mode.exact.tail ((st.push (.repetition 0 none true (.literal ⟨'/', false⟩))).push
      (.anchor .lineEnd)) := by
  let st' := st.push (.repetition 0 none true (.literal ⟨'/', false⟩))
  have hslash : st.Reads (Regex.escape ['/']) (st.push (.literal ⟨'/', false⟩)) :=
    State.reads_escape hspaced '/'
  have hslashes : (st.push (.literal ⟨'/', false⟩)).Reads ['*'] st' :=
    State.reads_star hspaced nofun nofun
  have hend : st'.Reads ['$'] (st'.push (.anchor .lineEnd)) := State.reads_lineEnd hspaced
  have htail : Mode.exact.tail = Regex.escape ['/'] ++ (['*'] ++ ['$']) := by decide
  rw [htail]
  exact hslash.append (hslashes.append hend)

theorem reads_exact (atoms : List Atom) (h : Named [] atoms) :
    ∃ st, State.start.Reads (source .exact (atoms.map token)) st ∧
      st.level = ⟨none, [], (exactParts atoms).reverse, false⟩ := by
  let st₁ := State.start.push (.anchor .lineStart)
  let st₂ := afterAll st₁ atoms
  have hlevel : st₂.level = ⟨none, [], (asts 1 atoms).reverse ++ [.anchor .lineStart], false⟩ :=
    level_afterAll st₁ atoms
  have hstart : State.start.Reads ['^'] st₁ := State.reads_lineStart rfl
  have hatoms : st₁.Reads (atoms.flatMap fun a => a.token.source) st₂ :=
    reads_sources atoms st₁ [] rfl rfl h
  have htail : st₂.Reads Mode.exact.tail _ := reads_exactTail (spaced_afterAll st₁ atoms)
  have hsource : source .exact (atoms.map token) =
      ['^'] ++ (atoms.flatMap fun a => a.token.source) ++ Mode.exact.tail := by
    rw [source, List.flatMap_map]
    rfl
  refine ⟨_, hsource ▸ (hstart.append hatoms).append htail, ?_⟩
  simp [State.push, hlevel, exactParts]

theorem depth_exactParts_le (atoms : List Atom) :
    (Ast.concat (exactParts atoms)).depth ≤ Regex.nestLimit := by
  have hall := depthAll_asts_le atoms
    [.repetition 0 none true (.literal ⟨'/', false⟩), .anchor .lineEnd] (Nat.le_refl 3)
    (by decide) 1
  simp only [Ast.depth, exactParts, Ast.depthAll, Regex.nestLimit]
  omega

/-- What is read to the end with no group left open is a sequence of the parts. -/
theorem parse_of_reads {s : List Char} {st : State} {parts : List Ast}
    (hread : State.start.Reads s st) (hlevel : st.level = ⟨none, [], parts.reverse, false⟩)
    (hparts : Ast.ofParts parts = .concat parts)
    (hdepth : (Ast.concat parts).depth ≤ Regex.nestLimit) : Ast.parse s = .ok (.concat parts) := by
  have hfinish : st.finish = .ok (.concat parts) := by
    simp [State.finish, hlevel, Regex.Parser.Level.toAst, hparts, Ast.ofBranches]
  rw [Ast.parse, hread.run_eq]
  change st.finish.bind _ = _
  rw [hfinish]
  change (if (Ast.concat parts).depth ≤ Regex.nestLimit then _ else _) = _
  rw [if_pos hdepth]

theorem parse_source (atoms : List Atom) (h : Named [] atoms) :
    Ast.parse (source .exact (atoms.map token)) = .ok (.concat (exactParts atoms)) := by
  obtain ⟨st, hread, hlevel⟩ := reads_exact atoms h
  refine parse_of_reads hread hlevel ?_ (depth_exactParts_le atoms)
  unfold exactParts
  cases asts 1 atoms <;> rfl

theorem elaborate_exactParts (atoms : List Atom) :
    (Ast.concat (exactParts atoms)).elaborate {} = .ok (exactExpr atoms, {}) := by
  have htail : Ast.elaborateAll {}
      [.repetition 0 none true (.literal ⟨'/', false⟩), .anchor .lineEnd] =
        .ok ([.repetition 0 none true (.set (CharSet.single '/')), .look .textEnd], {}) := rfl
  have hparts : Ast.elaborateAll {} (exactParts atoms) = .ok (exactExprs atoms, {}) := by
    rw [exactParts, Ast.elaborateAll]
    change (Ast.elaborateAll {} (asts 1 atoms ++ _)).bind _ = _
    rw [elaborateAll_asts atoms _ _ htail 1]
    rfl
  rw [Ast.elaborate, hparts]
  rfl

end Atom

/-- A pattern compiles to the expression that its translation is read as, unless the machine for
that is too large. -/
theorem compile_of_parse {mode : Mode} {text : String} {ts : List Token} {ast : Ast} {e : Expr}
    {flags : Regex.Flags} (htokens : tokens [] (normalize mode text.toList) = .ok ts)
    (hparse : Ast.parse (source mode ts) = .ok ast)
    (helaborate : ast.elaborate {} = .ok (e, flags)) :
    compile mode text =
      if e.weight ≤ Regex.sizeLimit then
        .ok ⟨text, mode, .ofExpr (String.ofList (source mode ts)) e⟩
      else .error (.invalidRegex text .tooLarge) := by
  have hcompile : Regex.compile (String.ofList (source mode ts)) =
      if e.weight ≤ Regex.sizeLimit then .ok (.ofExpr (String.ofList (source mode ts)) e)
      else .error .tooLarge := by
    rw [Regex.compile, String.toList_ofList, hparse]
    change (Ast.elaborate {} _).bind _ = _
    rw [helaborate]
    rfl
  rw [compile, htokens]
  simp only [hcompile]
  split
  · rename_i heq
    split at heq
    · cases heq
    · rename_i hweight
      cases heq
      rw [if_neg hweight]
  · rename_i heq
    split at heq
    · rename_i hweight
      cases heq
      rw [if_pos hweight]
    · cases heq

theorem compile_exact {text : String} {atoms : List Atom}
    (htokens : tokens [] (normalize .exact text.toList) = .ok (atoms.map Atom.token))
    (h : Atom.Named [] atoms) :
    compile .exact text =
      if (Atom.exactExpr atoms).weight ≤ Regex.sizeLimit then
        .ok ⟨text, .exact, .ofExpr (String.ofList (source .exact (atoms.map Atom.token)))
          (Atom.exactExpr atoms)⟩
      else .error (.invalidRegex text .tooLarge) :=
  compile_of_parse htokens (Atom.parse_source atoms h) (Atom.elaborate_exactParts atoms)

end Signpost.Pattern
