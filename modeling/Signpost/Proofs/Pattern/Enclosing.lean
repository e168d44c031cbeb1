import Signpost.Proofs.Pattern.Capturing
import Signpost.Proofs.Regex.Enclosing

/-!
# Patterns with sub-patterns

A sub-pattern is put into the regular expression of a pattern as it is, between the parentheses of a
group. If every sub-pattern is enclosed there (`Pattern.Token.Enclosed`), the pattern is read as one
part for each token between its anchors (`Pattern.exists_parts_of_parse`).
-/

namespace Signpost

open Regex (Ast Expr bind_eq_ok_iff)
open Regex.Parser (State)

namespace Pattern

open Regex.Parser.State (Completes Enclosed enclosed_of_reads suffixAst)

theorem enclosed_segmentSource : Enclosed segmentSource :=
  enclosed_of_reads fun _ hspaced => ⟨_, Atom.reads_segment hspaced, rfl, rfl, rfl⟩

namespace Token

/-! ## Tokens -/

/-- The sub-pattern of the token, if there is one, stays in its group. -/
def Enclosed : Token → Prop
  | .named _ (some sub) => State.Enclosed sub
  | .anonymous sub => State.Enclosed sub
  | _ => True

theorem head?_source_append_ne (t : Token) (rest : List Char) :
    (t.source ++ rest).head? ≠ some '?' := by
  cases t with
  | char c =>
    have hreads : State.start.Reads (Regex.escape [c]) _ := State.reads_escape rfl c
    have hne : Regex.escape [c] ≠ [] := by
      simp only [Regex.escape, List.flatMap_cons, List.flatMap_nil, List.append_nil]
      split <;> exact List.cons_ne_nil _ _
    change (Regex.escape [c] ++ rest).head? ≠ some '?'
    rw [List.head?_append_of_ne_nil _ hne]
    exact hreads.head?_ne
  | segment =>
    have hsource : segment.source = ['[', '^', '/', ']', '+'] := by decide
    simp [hsource]
  | rest =>
    have hsource : Token.rest.source = ['.', '+'] := by decide
    simp [hsource]
  | named name sub => simp [source_named]
  | anonymous sub => simp [source_anonymous]

variable {t : Token} {st final : State} {rest : List Char}

/-- A token with an enclosed sub-pattern is read as one part. -/
theorem adds_of_completes (henclosed : t.Enclosed)
    (hname : ∀ name, t.name? = some name → isName name) (hspaced : st.spaced = false)
    (hrest : rest.head? ≠ some '?') (h : st.Completes (t.source ++ rest) final) :
    ∃ st' ast, st'.Completes rest final ∧ st.Adds [ast] st' ∧ ast.Scoped := by
  have hatom : ∀ a : Atom, (∀ name, a ≠ .capture name) →
      st.Completes (a.token.source ++ rest) final →
        ∃ st' ast, st'.Completes rest final ∧ st.Adds [ast] st' ∧ ast.Scoped := by
    intro a ha h
    have hreads := Atom.reads_source hspaced a fun name hname => absurd hname (ha name)
    refine ⟨_, a.ast (st.captures + 1), h.of_reads hreads hrest, ⟨?_, Atom.level_after st a⟩, ?_⟩
    · rw [Atom.spaced_after, hspaced]
    · intro e f he
      rw [Atom.elaborate_ast] at he
      cases he
      rfl
  cases t with
  | char c => exact hatom (.char c) nofun h
  | segment => exact hatom .segment nofun h
  | rest => exact hatom .rest nofun h
  | named name sub =>
    have hsub : Regex.Parser.State.Enclosed (sub.getD segmentSource) := by
      cases sub with
      | none => exact enclosed_segmentSource
      | some sub => exact henclosed
    cases name with
    | nil => cases hname [] rfl
    | cons c name =>
      obtain ⟨hc, hrest⟩ := Atom.isNameChar_of_isName (hname _ rfl)
      have hsource : (named (c :: name) sub).source ++ rest = '(' :: ('?' :: 'P' :: '<' ::
          (c :: name ++ '>' :: (sub.getD segmentSource ++ ')' :: rest))) := by
        simp [source_named]
      have hlevel : (st.opened (String.ofList (c :: name))).level =
          ⟨some (.capture (st.captures + 1) (some (String.ofList (c :: name)))), [], [], false⟩ :=
        congrArg (Regex.Parser.Level.mk _ [] []) hspaced
      have hopened := Completes.of_named (hsource ▸ h) hspaced hc hrest
      obtain ⟨st', body, hst', hadds⟩ := hopened.of_opened hsub hlevel rfl hspaced
      exact ⟨st', _, hst', hadds, Ast.scoped_group _ _⟩
  | anonymous sub =>
    have hsource : (anonymous sub).source ++ rest =
        '(' :: ('?' :: ':' :: (sub ++ ')' :: rest)) := by simp [source_anonymous]
    have hlevel : (st.openGroup (.plain ⟨[], []⟩) st.spaced).level =
        ⟨some (.plain ⟨[], []⟩), [], [], false⟩ := congrArg (Regex.Parser.Level.mk _ [] []) hspaced
    have hopened := Completes.of_plain (hsource ▸ h) hspaced
    obtain ⟨st', body, hst', hadds⟩ := hopened.of_opened henclosed hlevel rfl hspaced
    exact ⟨st', _, hst', hadds, Ast.scoped_group _ _⟩

theorem adds_of_completes_all {ts : List Token} (henclosed : ∀ t ∈ ts, t.Enclosed)
    (hnames : ∀ t ∈ ts, ∀ name, t.name? = some name → isName name) (hrest : rest.head? ≠ some '?')
    (hspaced : st.spaced = false) (h : st.Completes (ts.flatMap source ++ rest) final) :
    ∃ st' asts, st'.Completes rest final ∧ st.Adds asts st' ∧ ∀ ast ∈ asts, ast.Scoped := by
  induction ts generalizing st with
  | nil => exact ⟨st, [], h, ⟨hspaced, rfl⟩, nofun⟩
  | cons t ts ih =>
    obtain ⟨hfirst, henclosed⟩ := List.forall_mem_cons.mp henclosed
    obtain ⟨hname, hnames⟩ := List.forall_mem_cons.mp hnames
    rw [List.flatMap_cons, List.append_assoc] at h
    have hhead : (ts.flatMap source ++ rest).head? ≠ some '?' := by
      cases ts with
      | nil => exact hrest
      | cons t ts =>
        rw [List.flatMap_cons, List.append_assoc]
        exact head?_source_append_ne t _
    obtain ⟨st', ast, hst', hadds, hast⟩ := adds_of_completes hfirst hname hspaced hhead h
    obtain ⟨st'', asts, hst'', hadds', hasts⟩ := ih henclosed hnames hadds.spaced_eq hst'
    exact ⟨st'', ast :: asts, hst'', hadds.append hadds', List.forall_mem_cons.mpr ⟨hast, hasts⟩⟩

theorem isName_of_captureToken {names : List (List Char)} {body name : List Char}
    (h : captureToken names body = .ok t) (hname : t.name? = some name) : isName name := by
  have hchecked : ∀ name' sub, (if !isName name' then Except.error (Malformation.invalidName name')
      else if names.contains name' then .error (.duplicateName name')
      else .ok (.named name' sub)) = .ok t → isName name := by
    intro name' sub h
    split at h
    · cases h
    · rename_i hvalid
      split at h
      · cases h
      · cases h
        cases hname
        simpa using hvalid
  unfold captureToken at h
  dsimp only at h
  split at h
  · cases h
  · split at h
    · cases h
      cases hname
    · exact hchecked _ _ h
  · split at h
    · cases h
    · exact hchecked _ _ h

/-- The names in the tokens of a pattern are valid. -/
theorem isName_of_tokens {names : List (List Char)} {s : List Char} {ts : List Token}
    (h : tokens names s = .ok ts) : ∀ t ∈ ts, ∀ name, t.name? = some name → isName name := by
  have hplain : ∀ (t : Token) {x : Except Malformation (List Token)} {ts : List Token},
      (∀ name, t.name? = some name → isName name) →
      (∀ {ts}, x = .ok ts → ∀ t ∈ ts, ∀ name, t.name? = some name → isName name) →
      (x >>= fun ts => .ok (t :: ts)) = .ok ts →
        ∀ t ∈ ts, ∀ name, t.name? = some name → isName name := by
    intro t x ts ht hx h
    obtain ⟨rest, hrest, h⟩ := bind_eq_ok_iff.mp h
    cases h
    exact List.forall_mem_cons.mpr ⟨ht, hx hrest⟩
  fun_induction tokens names s generalizing ts with
  | case1 =>
    cases h
    nofun
  | case2 names rest ih => exact hplain .rest nofun ih h
  | case3 names rest _ ih => exact hplain .segment nofun ih h
  | case4 => cases h
  | case5 => cases h
  | case6 names s body after hbody ih =>
    obtain ⟨token, htoken, h⟩ := bind_eq_ok_iff.mp h
    exact hplain token (fun _ => isName_of_captureToken htoken) (ih token) h
  | case7 names c rest _ _ _ _ ih => exact hplain (.char c) nofun ih h

end Token

/-! ## The whole expression -/

namespace Mode

/-- The parts that stand for the tail of the source; the suffix of a mount is the group with the
index. -/
def tailParts (index : Nat) : Mode → List Ast
  | .exact => [.repetition 0 none true (.literal ⟨'/', false⟩), .anchor .lineEnd]
  | .mount => [suffixAst index, .anchor .lineEnd]

def tailExprs (index : Nat) : Mode → List Expr
  | .exact => Atom.exactTail
  | .mount => Atom.mountTail index

theorem elaborateAll_tailParts (index : Nat) (mode : Mode) :
    Ast.elaborateAll {} (mode.tailParts index) = .ok (mode.tailExprs index, {}) := by
  cases mode <;> rfl

theorem reads_tail {st : State} (hspaced : st.spaced = false) (mode : Mode) :
    ∃ st', st.Reads mode.tail st' ∧ st.Adds (mode.tailParts st'.captures) st' := by
  cases mode with
  | exact => exact ⟨_, Atom.reads_exactTail hspaced, hspaced, rfl⟩
  | mount => exact ⟨_, Atom.reads_mountTail hspaced, hspaced, rfl⟩

end Mode

/-- A pattern whose sub-patterns are enclosed is read as a sequence between its anchors, and the
group of a suffix is the last one. -/
theorem exists_parts_of_parse {mode : Mode} {ts : List Token} {ast : Ast}
    (h : Ast.parse (source mode ts) = .ok ast) (henclosed : ∀ t ∈ ts, t.Enclosed)
    (hnames : ∀ t ∈ ts, ∀ name, t.name? = some name → isName name) :
    ∃ asts n, ast = .concat (.anchor .lineStart :: (asts ++ mode.tailParts n)) ∧
      (∀ ast ∈ asts, ast.Scoped) ∧ ∀ i ∈ ast.indices, 0 < i ∧ i ≤ n := by
  obtain ⟨final, hrun, h⟩ := bind_eq_ok_iff.mp h
  obtain ⟨whole, hfinish, h⟩ := bind_eq_ok_iff.mp h
  split at h
  swap
  · cases h
  cases h
  have hindices : ∀ i ∈ ast.indices, 0 < i ∧ i ≤ final.captures := fun i hi =>
    (State.indexed_start.run hrun) i (State.mem_indices_of_finish hfinish hi)
  let st := State.start.push (.anchor .lineStart)
  have htail : mode.tail.head? ≠ some '?' := by cases mode <;> decide
  have hstart : st.Completes (ts.flatMap Token.source ++ mode.tail) final := by
    have hcompletes :
        State.start.Completes (['^'] ++ (ts.flatMap Token.source ++ mode.tail)) final :=
      ⟨_, Nat.le_refl _, hrun⟩
    refine hcompletes.of_reads (State.reads_lineStart rfl) ?_
    cases ts with
    | nil => exact htail
    | cons t ts =>
      rw [List.flatMap_cons, List.append_assoc]
      exact t.head?_source_append_ne _
  obtain ⟨st', asts, hst', hadds, hasts⟩ :=
    Token.adds_of_completes_all henclosed hnames htail rfl hstart
  obtain ⟨st'', hreads, hadds'⟩ := mode.reads_tail hadds.spaced_eq
  have hend : st''.Completes [] final := by
    refine Completes.of_reads ?_ hreads nofun
    rwa [List.append_nil]
  obtain rfl := hend.eq_of_nil
  refine ⟨asts, final.captures, ?_, hasts, hindices⟩
  have hlevel := (hadds.append hadds').level_eq
  rw [State.finish, hlevel] at hfinish
  have hast : Ast.ofParts (((asts ++ mode.tailParts final.captures).reverse ++
      [Ast.anchor .lineStart]).reverse) = ast := Except.ok.inj hfinish
  rw [← hast, List.reverse_append, List.reverse_reverse]
  cases asts <;> cases mode <;> rfl

end Pattern

end Signpost
