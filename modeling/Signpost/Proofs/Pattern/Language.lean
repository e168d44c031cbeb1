import Signpost.Proofs.Pattern.Translation
import Signpost.Proofs.Regex.Search
import Signpost.Proofs.Regex.Words

/-!
# What a simple pattern matches

A pattern without sub-patterns is made of literal characters, the wildcards `*` and `**`, and
captures (`Pattern.Plain`). Its text denotes words in the way a reader of the pattern expects
(`Pattern.Denotes`), and the compiled pattern matches just the paths that consist of such a word and
slashes (`Pattern.compile_plain`).
-/

namespace Signpost

/-! ## Sets without one character -/

namespace Unicode.CharSet

theorem toNat_le_maxCodePoint (c : Char) : c.toNat ≤ maxCodePoint := by
  have hvalid : c.toNat < 0xD800 ∨ 0xDFFF < c.toNat ∧ c.toNat < 0x110000 := c.valid
  unfold maxCodePoint
  omega

@[simp]
theorem contains_complement_single (c d : Char) :
    (single c).complement.contains d = (c != d) := by
  have hd : d.toNat ≤ maxCodePoint := toNat_le_maxCodePoint d
  have hne : c = d ↔ c.toNat = d.toNat := Char.toNat_inj.symm
  rw [Bool.eq_iff_iff, bne_iff_ne, ne_eq, hne]
  simp only [single, complement, gaps, contains]
  split <;> split <;> simp [Interval.contains] <;> omega

end Unicode.CharSet

namespace Pattern

open Unicode (CharSet)
open Regex (Expr Node Spans)

/-! ## Words of atoms -/

namespace Atom

/-- The words that an atom stands for. -/
def Denotes : Atom → List Char → Prop
  | char c, u => u = [c]
  | segment, u => u ≠ [] ∧ '/' ∉ u
  | rest, u => u ≠ [] ∧ '\n' ∉ u
  | capture _, u => u ≠ [] ∧ '/' ∉ u

/-- The words that atoms stand for, one after the other. -/
inductive DenoteAll : List Atom → List Char → Prop
  | nil : DenoteAll [] []
  | cons {a : Atom} {atoms : List Atom} {u v : List Char} (h : a.Denotes u)
      (hrest : DenoteAll atoms v) : DenoteAll (a :: atoms) (u ++ v)

/-- The positions that a match of the atom stores. -/
def slots (index i j : Nat) : Atom → List (Nat × Nat)
  | capture _ => [(2 * index + 1, j), (2 * index, i)]
  | _ => []

variable {text : Array Char} {i j : Nat} {w : List (Nat × Nat)}

theorem matches_plus_complement_iff {c : Char} :
    (Node.plus true (.set (CharSet.single c).complement)).Matches text i j w ↔
      w = [] ∧ ∃ u, (u ≠ [] ∧ c ∉ u) ∧ Spans text i u j := by
  have hset : ∀ u : List Char,
      (∀ d ∈ u, (CharSet.single c).complement.contains d = true) ↔ c ∉ u := by
    intro u
    simp only [CharSet.contains_complement_single, bne_iff_ne]
    exact ⟨fun h hc => h c hc rfl, fun h d hd hcd => h (hcd ▸ hd)⟩
  simp only [Node.matches_plus_set_iff, hset, and_assoc]

theorem matches_expr_iff (index : Nat) (a : Atom) : (a.expr index).expand.Matches text i j w ↔
    w = a.slots index i j ∧ ∃ u, a.Denotes u ∧ Spans text i u j := by
  cases a with
  | char c =>
    refine Node.matches_set_iff.trans (and_congr_right fun _ => ?_)
    simp only [CharSet.contains_single, beq_iff_eq, Denotes, exists_eq_left', exists_eq_left]
  | segment => exact matches_plus_complement_iff
  | rest => exact matches_plus_complement_iff
  | capture name =>
    constructor
    · intro h
      cases h with
      | capture h =>
        obtain ⟨rfl, hu⟩ := matches_plus_complement_iff.mp h
        exact ⟨rfl, hu⟩
    · rintro ⟨rfl, hu⟩
      exact .capture (matches_plus_complement_iff.mpr ⟨rfl, hu⟩)

theorem matchesAll_exprs_iff (atoms : List Atom) : ∀ index i j,
    (∃ w, Expr.MatchesAll text (exprs index atoms) i j w) ↔
      ∃ u, DenoteAll atoms u ∧ Spans text i u j := by
  induction atoms with
  | nil =>
    intro index i j
    constructor
    · rintro ⟨w, h⟩
      cases h
      exact ⟨[], .nil, .nil text i⟩
    · rintro ⟨u, h, hspan⟩
      cases h
      obtain rfl : j = i := hspan.2
      exact ⟨[], .nil⟩
  | cons a atoms ih =>
    intro index i k
    constructor
    · rintro ⟨w, h⟩
      cases h with
      | cons h hrest =>
        obtain ⟨-, u, hu, hspan⟩ := (matches_expr_iff index a).mp h
        obtain ⟨v, hv, hspan'⟩ := (ih _ _ _).mp ⟨_, hrest⟩
        exact ⟨u ++ v, .cons hu hv, hspan.append hspan'⟩
    · rintro ⟨u, h, hspan⟩
      cases h with
      | cons hu hv =>
        obtain ⟨hspan, hspan'⟩ := hspan.split
        obtain ⟨w, hrest⟩ := (ih (index + a.groups) _ _).mpr ⟨_, hv, hspan'⟩
        exact ⟨_, .cons ((matches_expr_iff index a).mpr ⟨rfl, _, hu, hspan⟩) hrest⟩

/-! ## Matches of the whole pattern -/

theorem matches_textStart_iff : (Node.look .textStart).Matches text i j w ↔
    w = [] ∧ j = i ∧ Regex.before? text i = none := by
  constructor
  · intro h
    cases h with
    | look h => exact ⟨rfl, rfl, Option.isNone_iff_eq_none.mp h⟩
  · rintro ⟨rfl, rfl, h⟩
    exact .look (Option.isNone_iff_eq_none.mpr h)

theorem eq_zero_of_before?_eq_none (hi : i ≤ text.size) (h : Regex.before? text i = none) :
    i = 0 := by
  unfold Regex.before? at h
  split at h
  · assumption
  · have hle := Array.getElem?_eq_none_iff.mp h
    omega

theorem matches_textEnd_iff : (Node.look .textEnd).Matches text i j w ↔
    w = [] ∧ j = i ∧ text.size ≤ i := by
  rw [← Array.getElem?_eq_none_iff]
  constructor
  · intro h
    cases h with
    | look h => exact ⟨rfl, rfl, Option.isNone_iff_eq_none.mp h⟩
  · rintro ⟨rfl, rfl, h⟩
    exact .look (Option.isNone_iff_eq_none.mpr h)

theorem matches_slashes_iff :
    (Node.star true (.set (CharSet.single '/'))).Matches text i j w ↔
      w = [] ∧ ∃ n, Spans text i (List.replicate n '/') j := by
  rw [Node.matches_star_set_iff]
  simp only [CharSet.contains_single, beq_iff_eq]
  refine and_congr_right fun _ => ⟨?_, ?_⟩
  · rintro ⟨u, hu, hspan⟩
    have hslashes : u = List.replicate u.length '/' :=
      List.eq_replicate_iff.mpr ⟨rfl, fun c hc => (hu c hc).symm⟩
    exact ⟨u.length, hslashes ▸ hspan⟩
  · rintro ⟨n, hspan⟩
    exact ⟨_, fun c hc => (List.eq_of_mem_replicate hc).symm, hspan⟩

/-- The expression matches somewhere in the text exactly if the text consists of a word of the atoms
and slashes. -/
theorem exists_matches_exactExpr_iff (atoms : List Atom) :
    (∃ i j w, i ≤ text.size ∧ (exactExpr atoms).expand.Matches text i j w) ↔
      ∃ u n, text.toList = u ++ List.replicate n '/' ∧ DenoteAll atoms u := by
  constructor
  · rintro ⟨i, k, w, hi, h⟩
    rw [exactExpr, Expr.matches_sequence_iff] at h
    cases h with
    | cons hstart h =>
      obtain ⟨-, rfl, hbefore⟩ := matches_textStart_iff.mp hstart
      obtain ⟨j, v, v', -, hatoms, hend⟩ := (Expr.matchesAll_append_iff _ _).mp h
      cases hend with
      | cons hslashes hend =>
        cases hend with
        | cons hend hnil =>
          cases hnil
          obtain ⟨-, rfl, hsize⟩ := matches_textEnd_iff.mp hend
          obtain ⟨-, n, hspan'⟩ := matches_slashes_iff.mp hslashes
          obtain ⟨u, hu, hspan⟩ := (matchesAll_exprs_iff atoms _ _ _).mp ⟨_, hatoms⟩
          have hzero := eq_zero_of_before?_eq_none hi hbefore
          subst hzero
          have hall := hspan.append hspan'
          obtain rfl := Nat.le_antisymm (hall.le_size hi) hsize
          exact ⟨u, n, hall.eq_toList, hu⟩
  · rintro ⟨u, n, htext, hu⟩
    have hall := Spans.whole text
    rw [htext] at hall
    obtain ⟨hspan, hspan'⟩ := hall.split
    obtain ⟨w, hatoms⟩ := (matchesAll_exprs_iff atoms 1 _ _).mpr ⟨u, hu, hspan⟩
    have hstart : (Node.look .textStart).Matches text 0 0 [] :=
      matches_textStart_iff.mpr ⟨rfl, rfl, rfl⟩
    have hslashes := matches_slashes_iff.mpr ⟨rfl, n, hspan'⟩
    have hend : (Node.look .textEnd).Matches text text.size text.size [] :=
      matches_textEnd_iff.mpr ⟨rfl, rfl, Nat.le_refl _⟩
    have htail : Expr.MatchesAll text [.repetition 0 none true (.set (CharSet.single '/')),
        .look .textEnd] (0 + u.length) text.size _ := .cons hslashes (.cons hend .nil)
    have h : Expr.MatchesAll text (exactExprs atoms) 0 text.size _ :=
      .cons hstart ((Expr.matchesAll_append_iff _ _).mpr ⟨_, w, _, rfl, hatoms, htail⟩)
    exact ⟨0, text.size, _, Nat.zero_le _, (Expr.matches_sequence_iff _).mpr h⟩

end Atom

/-! ## Texts of patterns -/

/-- The text is built from literal characters, stars and captures; the names of the captures are
valid, and none is used twice or is one of `names`. -/
inductive Plain : (names : List (List Char)) → List Char → Prop
  | nil {names : List (List Char)} : Plain names []
  | literal {names : List (List Char)} {c : Char} {s : List Char}
      (hc : c ≠ '*' ∧ c ≠ '\x7b' ∧ c ≠ '\x7d') (h : Plain names s) : Plain names (c :: s)
  | star {names : List (List Char)} {s : List Char} (h : Plain names s) : Plain names ('*' :: s)
  | capture {names : List (List Char)} {name s : List Char} (hname : isName name = true)
      (hfresh : name ∉ names) (h : Plain (name :: names) s) :
      Plain names ('\x7b' :: (name ++ '\x7d' :: s))

/-- The words that the text of a pattern denotes. Two stars are read as one sign wherever they can
be. -/
inductive Denotes : List Char → List Char → Prop
  | nil : Denotes [] []
  | literal {c : Char} {s w : List Char} (hc : c ≠ '*' ∧ c ≠ '\x7b' ∧ c ≠ '\x7d')
      (h : Denotes s w) : Denotes (c :: s) (c :: w)
  | segment {s u w : List Char} (hs : s.head? ≠ some '*') (hu : u ≠ [] ∧ '/' ∉ u)
      (h : Denotes s w) : Denotes ('*' :: s) (u ++ w)
  | rest {s u w : List Char} (hu : u ≠ [] ∧ '\n' ∉ u) (h : Denotes s w) :
      Denotes ('*' :: '*' :: s) (u ++ w)
  | capture {name s u w : List Char} (hname : isName name = true) (hu : u ≠ [] ∧ '/' ∉ u)
      (h : Denotes s w) : Denotes ('\x7b' :: (name ++ '\x7d' :: s)) (u ++ w)

/-! ## Reading names -/

theorem isAlphanum_of_mem_of_isName {name : List Char} (h : isName name = true) :
    ∀ c ∈ name, (c.isAlphanum || c == '_') = true := by
  cases name with
  | nil => exact nofun
  | cons c name =>
    simp only [isName, Bool.and_eq_true, List.all_eq_true] at h
    refine List.forall_mem_cons.mpr ⟨?_, h.2⟩
    rw [Char.isAlphanum, Bool.or_right_comm, h.1, Bool.true_or]

theorem ne_of_mem_of_isName {name : List Char} (h : isName name = true) :
    ∀ c ∈ name, c ≠ '\x7b' ∧ c ≠ '\x7d' ∧ c ≠ '\\' ∧ c ≠ ':' := by
  intro c hc
  have hname := isAlphanum_of_mem_of_isName h c hc
  refine ⟨?_, ?_, ?_, ?_⟩ <;> rintro rfl <;> exact absurd hname (by decide)

theorem brace_not_mem_of_isName {name : List Char} (h : isName name = true) : '\x7d' ∉ name :=
  fun hmem => (ne_of_mem_of_isName h _ hmem).2.1 rfl

theorem captureBody_append {name : List Char} (h : isName name = true) (s : List Char) :
    captureBody 0 (name ++ '\x7d' :: s) = some (name, s) := by
  have hne := ne_of_mem_of_isName h
  clear h
  induction name with
  | nil => simp [captureBody]
  | cons c name ih =>
    obtain ⟨⟨hopen, hclose, hback, -⟩, hrest⟩ := List.forall_mem_cons.mp hne
    have hbody := ih hrest
    rw [List.cons_append, captureBody]
    · simp [hopen, hclose, hbody]
    · exact fun heq _ => hback heq
    · exact fun _ _ heq _ => hback heq

theorem captureToken_of_isName {names : List (List Char)} {name : List Char}
    (h : isName name = true) (hfresh : name ∉ names) :
    captureToken names name = .ok (.named name none) := by
  have hcut : Text.cut? ':' name = none :=
    Text.cut?_of_not_mem fun hmem => (ne_of_mem_of_isName h _ hmem).2.2.2 rfl
  have hne : name.isEmpty = false := by
    cases name with
    | nil => cases h
    | cons => rfl
  simp [captureToken, hcut, hne, h, hfresh]

/-- A capture ends at the first closing brace. -/
theorem eq_of_append_brace_eq {name name' s s' : List Char} (h : '\x7d' ∉ name)
    (h' : '\x7d' ∉ name') (heq : name ++ '\x7d' :: s = name' ++ '\x7d' :: s') :
    name = name' ∧ s = s' := by
  induction name generalizing name' with
  | nil =>
    cases name' with
    | nil => exact ⟨rfl, (List.cons.inj heq).2⟩
    | cons c name' =>
      obtain ⟨rfl, -⟩ := List.cons.inj heq
      exact absurd List.mem_cons_self h'
  | cons c name ih =>
    cases name' with
    | nil =>
      obtain ⟨rfl, -⟩ := List.cons.inj heq
      exact absurd List.mem_cons_self h
    | cons c' name' =>
      obtain ⟨rfl, hrest⟩ := List.cons.inj heq
      rw [List.mem_cons, not_or] at h h'
      obtain ⟨rfl, rfl⟩ := ih h.2 h'.2 hrest
      exact ⟨rfl, rfl⟩

/-! ## Reading patterns -/

theorem denotes_nil_iff {w : List Char} : Denotes [] w ↔ w = [] := by
  constructor
  · intro h
    cases h
    rfl
  · rintro rfl
    exact .nil

theorem denotes_literal_iff {c : Char} {s w : List Char}
    (hc : c ≠ '*' ∧ c ≠ '\x7b' ∧ c ≠ '\x7d') :
    Denotes (c :: s) w ↔ ∃ v, w = c :: v ∧ Denotes s v := by
  constructor
  · intro h
    cases h with
    | literal _ h => exact ⟨_, rfl, h⟩
    | segment => exact absurd rfl hc.1
    | rest => exact absurd rfl hc.1
    | capture => exact absurd rfl hc.2.1
  · rintro ⟨v, rfl, h⟩
    exact .literal hc h

theorem denotes_segment_iff {s w : List Char} (hs : s.head? ≠ some '*') :
    Denotes ('*' :: s) w ↔ ∃ u v, w = u ++ v ∧ (u ≠ [] ∧ '/' ∉ u) ∧ Denotes s v := by
  constructor
  · intro h
    cases h with
    | literal hc => exact absurd rfl hc.1
    | segment _ hu h => exact ⟨_, _, rfl, hu, h⟩
    | rest => exact absurd rfl hs
  · rintro ⟨u, v, rfl, hu, h⟩
    exact .segment hs hu h

theorem denotes_rest_iff {s w : List Char} :
    Denotes ('*' :: '*' :: s) w ↔ ∃ u v, w = u ++ v ∧ (u ≠ [] ∧ '\n' ∉ u) ∧ Denotes s v := by
  constructor
  · intro h
    cases h with
    | literal hc => exact absurd rfl hc.1
    | segment hs => exact absurd rfl hs
    | rest hu h => exact ⟨_, _, rfl, hu, h⟩
  · rintro ⟨u, v, rfl, hu, h⟩
    exact .rest hu h

theorem denotes_capture_iff {name s w : List Char} (hname : isName name = true) :
    Denotes ('\x7b' :: (name ++ '\x7d' :: s)) w ↔
      ∃ u v, w = u ++ v ∧ (u ≠ [] ∧ '/' ∉ u) ∧ Denotes s v := by
  constructor
  · intro h
    generalize hs : '\x7b' :: (name ++ '\x7d' :: s) = text at h
    cases h with
    | nil => cases hs
    | literal hc => exact absurd (List.cons.inj hs).1.symm hc.2.1
    | segment => exact absurd (List.cons.inj hs).1 (by decide)
    | rest => exact absurd (List.cons.inj hs).1 (by decide)
    | capture hname' hu h =>
      obtain ⟨rfl, rfl⟩ := eq_of_append_brace_eq (brace_not_mem_of_isName hname)
        (brace_not_mem_of_isName hname') (List.cons.inj hs).2
      exact ⟨_, _, rfl, hu, h⟩
  · rintro ⟨u, v, rfl, hu, h⟩
    exact .capture hname hu h

theorem Atom.denoteAll_cons_iff {a : Atom} {atoms : List Atom} {w : List Char} :
    DenoteAll (a :: atoms) w ↔ ∃ u v, w = u ++ v ∧ a.Denotes u ∧ DenoteAll atoms v := by
  constructor
  · intro h
    cases h with
    | cons h hrest => exact ⟨_, _, rfl, h, hrest⟩
  · rintro ⟨u, v, rfl, h, hrest⟩
    exact .cons h hrest

/-- `Reading names s atoms`: the text is made of the texts of the atoms, one after the other, where
`names` have been used before. -/
inductive Reading : (names : List (List Char)) → List Char → List Atom → Prop
  | nil {names : List (List Char)} : Reading names [] []
  | literal {names : List (List Char)} {c : Char} {s : List Char} {atoms : List Atom}
      (hc : c ≠ '*' ∧ c ≠ '\x7b' ∧ c ≠ '\x7d') (h : Reading names s atoms) :
      Reading names (c :: s) (.char c :: atoms)
  | segment {names : List (List Char)} {s : List Char} {atoms : List Atom}
      (hs : s.head? ≠ some '*') (h : Reading names s atoms) :
      Reading names ('*' :: s) (.segment :: atoms)
  | rest {names : List (List Char)} {s : List Char} {atoms : List Atom}
      (h : Reading names s atoms) : Reading names ('*' :: '*' :: s) (.rest :: atoms)
  | capture {names : List (List Char)} {name s : List Char} {atoms : List Atom}
      (hname : isName name = true) (hfresh : name ∉ names)
      (h : Reading (name :: names) s atoms) :
      Reading names ('\x7b' :: (name ++ '\x7d' :: s)) (.capture name :: atoms)

namespace Reading

variable {names : List (List Char)} {s : List Char} {atoms : List Atom}

theorem tokens_eq (h : Reading names s atoms) : tokens names s = .ok (atoms.map Atom.token) := by
  induction h with
  | nil => simp [tokens]
  | literal hc _ ih =>
    rw [tokens]
    · rw [ih]
      rfl
    · exact fun _ hstar _ => hc.1 hstar
    · exact hc.1
    · exact hc.2.2
    · exact hc.2.1
  | segment hs _ ih =>
    rw [tokens]
    · rw [ih]
      rfl
    · exact fun t ht => hs (by rw [ht]; rfl)
  | rest _ ih =>
    rw [tokens, ih]
    rfl
  | @capture names name s atoms hname hfresh _ ih =>
    rw [tokens]
    split
    · rename_i hbody
      rw [captureBody_append hname] at hbody
      cases hbody
    · rename_i body after hbody
      rw [captureBody_append hname] at hbody
      cases hbody
      rw [captureToken_of_isName hname hfresh]
      change (tokens (name :: names) s).bind _ = _
      rw [ih]
      rfl

theorem named (h : Reading names s atoms) : Atom.Named names atoms := by
  induction h with
  | nil => trivial
  | literal _ _ ih => exact ih
  | segment _ _ ih => exact ih
  | rest _ ih => exact ih
  | capture hname hfresh _ ih => exact ⟨hname, hfresh, ih⟩

theorem denotes_iff (h : Reading names s atoms) : ∀ w, Denotes s w ↔ Atom.DenoteAll atoms w := by
  induction h with
  | nil =>
    intro w
    rw [denotes_nil_iff]
    constructor
    · rintro rfl
      exact .nil
    · intro h
      cases h
      rfl
  | literal hc _ ih =>
    intro w
    rw [denotes_literal_iff hc, Atom.denoteAll_cons_iff]
    simp only [ih, Atom.Denotes]
    constructor
    · rintro ⟨v, rfl, h⟩
      exact ⟨[_], v, rfl, rfl, h⟩
    · rintro ⟨_, v, rfl, rfl, h⟩
      exact ⟨v, rfl, h⟩
  | segment hs _ ih =>
    intro w
    rw [denotes_segment_iff hs, Atom.denoteAll_cons_iff]
    simp only [ih, Atom.Denotes]
  | rest _ ih =>
    intro w
    rw [denotes_rest_iff, Atom.denoteAll_cons_iff]
    simp only [ih, Atom.Denotes]
  | capture hname _ _ ih =>
    intro w
    rw [denotes_capture_iff hname, Atom.denoteAll_cons_iff]
    simp only [ih, Atom.Denotes]

end Reading

theorem Plain.exists_reading {names : List (List Char)} {s : List Char} (h : Plain names s) :
    (∃ atoms, Reading names s atoms) ∧ ∀ t, s = '*' :: t → ∃ atoms, Reading names t atoms := by
  induction h with
  | nil => exact ⟨⟨_, .nil⟩, nofun⟩
  | literal hc _ ih =>
    obtain ⟨⟨atoms, hreading⟩, -⟩ := ih
    exact ⟨⟨_, .literal hc hreading⟩, fun t ht => absurd (List.cons.inj ht).1 hc.1⟩
  | @star names s _ ih =>
    refine ⟨?_, fun t ht => (List.cons.inj ht).2 ▸ ih.1⟩
    -- another star makes one sign together with this one
    by_cases hs : s.head? = some '*'
    · obtain ⟨t, rfl⟩ := List.head?_eq_some_iff.mp hs
      obtain ⟨atoms, hreading⟩ := ih.2 t rfl
      exact ⟨_, .rest hreading⟩
    · obtain ⟨⟨atoms, hreading⟩, -⟩ := ih
      exact ⟨_, .segment hs hreading⟩
  | capture hname hfresh _ ih =>
    obtain ⟨⟨atoms, hreading⟩, -⟩ := ih
    exact ⟨⟨_, .capture hname hfresh hreading⟩, nofun⟩

/-- The text is read as atoms, and denotes what they denote. -/
def Readable (names : List (List Char)) (s : List Char) : Prop :=
  ∃ atoms : List Atom, tokens names s = .ok (atoms.map Atom.token) ∧ Atom.Named names atoms ∧
    ∀ w, Denotes s w ↔ Atom.DenoteAll atoms w

theorem Reading.readable {names : List (List Char)} {s : List Char} {atoms : List Atom}
    (h : Reading names s atoms) : Readable names s :=
  ⟨atoms, h.tokens_eq, h.named, h.denotes_iff⟩

theorem Plain.readable {names : List (List Char)} {s : List Char} (h : Plain names s) :
    Readable names s ∧ ∀ t, s = '*' :: t → Readable names t := by
  obtain ⟨⟨_, hreading⟩, htail⟩ := h.exists_reading
  refine ⟨hreading.readable, fun t ht => ?_⟩
  obtain ⟨_, hrest⟩ := htail t ht
  exact hrest.readable

/-! ## Rooted texts -/

/-- The text with a slash at its start. -/
def rooted (text : List Char) : List Char := if text.head? = some '/' then text else '/' :: text

/-- `IsStem text stem`: the stem is the rooted text without the slashes at its end, or the root if
nothing else remains. -/
inductive IsStem (text : List Char) : List Char → Prop
  | root {n : Nat} (h : rooted text = List.replicate n '/') : IsStem text ['/']
  | body {stem : List Char} {n : Nat} (h : rooted text = stem ++ List.replicate n '/')
      (hne : stem ≠ []) (hlast : stem.getLast? ≠ some '/') : IsStem text stem

theorem eq_dropSlashes_append (s : List Char) :
    ∃ n, s = dropSlashes s ++ List.replicate n '/' := by
  have hslashes : s.reverse.takeWhile (· = '/') =
      List.replicate (s.reverse.takeWhile (· = '/')).length '/' := by
    refine List.eq_replicate_iff.mpr ⟨rfl, fun c hc => ?_⟩
    simpa using List.all_eq_true.mp List.all_takeWhile c hc
  refine ⟨(s.reverse.takeWhile (· = '/')).length, ?_⟩
  rw [dropSlashes, ← List.reverse_replicate, ← hslashes, ← List.reverse_append,
    List.takeWhile_append_dropWhile, List.reverse_reverse]

theorem getLast?_dropSlashes_ne (s : List Char) : (dropSlashes s).getLast? ≠ some '/' := by
  rw [dropSlashes, List.getLast?_reverse]
  intro h
  have hnot := List.head?_dropWhile_not (fun c => decide (c = '/')) s.reverse
  rw [h] at hnot
  simp at hnot

theorem isStem_normalize (text : List Char) : IsStem text (normalize .exact text) := by
  obtain ⟨n, hn⟩ := eq_dropSlashes_append (rooted text)
  have hnormalize : normalize .exact text =
      if (dropSlashes (rooted text)).isEmpty then ['/'] else dropSlashes (rooted text) := by
    simp [normalize, rooted]
  rw [hnormalize]
  split
  · rename_i hempty
    rw [List.isEmpty_iff.mp hempty] at hn
    exact .root hn
  · rename_i hne
    exact .body hn (by simpa using hne) (getLast?_dropSlashes_ne _)

namespace Plain

variable {names : List (List Char)}

theorem of_append_slashes {s : List Char} {n : Nat}
    (h : Plain names (s ++ List.replicate n '/')) : Plain names s := by
  generalize hs : s ++ List.replicate n '/' = text at h
  induction h generalizing s with
  | nil =>
    obtain ⟨rfl, -⟩ := List.append_eq_nil_iff.mp hs
    exact .nil
  | literal hc _ ih =>
    cases s with
    | nil => exact .nil
    | cons d s =>
      obtain ⟨rfl, hrest⟩ := List.cons.inj hs
      exact .literal hc (ih hrest)
  | star _ ih =>
    cases s with
    | nil => exact .nil
    | cons d s =>
      obtain ⟨rfl, hrest⟩ := List.cons.inj hs
      exact .star (ih hrest)
  | @capture names name t hname hfresh _ ih =>
    cases s with
    | nil => exact .nil
    | cons d s =>
      obtain ⟨rfl, hrest⟩ := List.cons.inj hs
      -- the brace that closes the capture is none of the slashes
      have hbrace : '\x7d' ∉ List.replicate n '/' := fun hmem =>
        absurd (List.eq_of_mem_replicate hmem) (by decide)
      obtain ⟨r, -, hr⟩ | ⟨r, rfl, hr⟩ := List.append_eq_append_iff.mp hrest
      · exact absurd (hr ▸ List.mem_append_right _ List.mem_cons_self) hbrace
      · cases r with
        | nil =>
          rw [List.nil_append] at hr
          exact absurd (hr ▸ List.mem_cons_self) hbrace
        | cons c r =>
          obtain ⟨rfl, ht⟩ := List.cons.inj hr
          exact .capture hname hfresh (ih ht.symm)

theorem rooted {text : List Char} (h : Plain names text) : Plain names (Pattern.rooted text) := by
  unfold Pattern.rooted
  split
  · exact h
  · exact .literal (by decide) h

theorem of_isStem {text stem : List Char} (h : Plain names text) (hstem : IsStem text stem) :
    Plain names stem := by
  cases hstem with
  | root => exact .literal (by decide) .nil
  | body hbody => exact of_append_slashes (hbody ▸ h.rooted)

end Plain

/-! ## Literal texts -/

theorem Plain.of_literal {names : List (List Char)} {s : List Char}
    (h : ∀ c ∈ s, c ≠ '*' ∧ c ≠ '\x7b' ∧ c ≠ '\x7d') : Plain names s := by
  induction s with
  | nil => exact .nil
  | cons c s ih =>
    obtain ⟨hc, hrest⟩ := List.forall_mem_cons.mp h
    exact .literal hc (ih hrest)

theorem denotes_iff_eq {s w : List Char} (h : ∀ c ∈ s, c ≠ '*' ∧ c ≠ '\x7b' ∧ c ≠ '\x7d') :
    Denotes s w ↔ w = s := by
  induction s generalizing w with
  | nil => exact denotes_nil_iff
  | cons c s ih =>
    obtain ⟨hc, hrest⟩ := List.forall_mem_cons.mp h
    rw [denotes_literal_iff hc]
    simp only [ih hrest, exists_eq_right]

theorem mem_of_isStem {text stem : List Char} (h : IsStem text stem) :
    ∀ c ∈ stem, c = '/' ∨ c ∈ text := by
  have hrooted : ∀ c ∈ rooted text, c = '/' ∨ c ∈ text := by
    intro c hc
    unfold rooted at hc
    split at hc
    · exact .inr hc
    · exact List.mem_cons.mp hc
  cases h with
  | root => exact fun c hc => .inl (List.mem_singleton.mp hc)
  | body hbody => exact fun c hc => hrooted c (hbody ▸ List.mem_append_left _ hc)

/-! ## The language of a pattern -/

theorem isMatch_iff_of_atoms {p : Pattern} {atoms : List Atom}
    (hp : p.regex.program = (Atom.exactExpr atoms).expand.program) (path : String) :
    p.isMatch path = true ↔
      ∃ word n, path.toList = word ++ List.replicate n '/' ∧ Atom.DenoteAll atoms word := by
  have hsearch : p.isMatch path =
      (Regex.search (Atom.exactExpr atoms).expand.program path.toList.toArray).isSome := by
    rw [isMatch, Regex.isMatch, Regex.captures?, Option.isSome_map, hp]
  rw [hsearch, Regex.isSome_search_iff, Atom.exists_matches_exactExpr_iff]

theorem exists_compile_of_isSome {mode : Mode} {text : String}
    (h : (compile mode text).toOption.isSome = true) : ∃ p, compile mode text = .ok p := by
  cases hcompile : compile mode text with
  | error cause =>
    rw [hcompile] at h
    cases h
  | ok p => exact ⟨p, rfl⟩

theorem isMatch_iff_denotes {text : String} {p : Pattern} (h : Plain [] text.toList)
    (hp : compile .exact text = .ok p) (path : String) : p.isMatch path = true ↔
      ∃ word n, path.toList = word ++ List.replicate n '/' ∧
        Denotes (normalize .exact text.toList) word := by
  obtain ⟨atoms, htokens, hnamed, hdenotes⟩ := (h.of_isStem (isStem_normalize _)).readable.1
  have hcompile := compile_exact htokens hnamed
  rw [hp] at hcompile
  split at hcompile
  · have hprogram : p.regex.program = (Atom.exactExpr atoms).expand.program := by
      rw [Except.ok.inj hcompile]
      rfl
    simp only [isMatch_iff_of_atoms hprogram, hdenotes]
  · cases hcompile

/-- Without signs, the text stands for itself. -/
theorem isMatch_iff_of_literal {text : String} {p : Pattern}
    (h : ∀ c ∈ text.toList, c ≠ '*' ∧ c ≠ '\x7b' ∧ c ≠ '\x7d')
    (hp : compile .exact text = .ok p) (path : String) : p.isMatch path = true ↔
      ∃ n, path.toList = normalize .exact text.toList ++ List.replicate n '/' := by
  have hstem : ∀ c ∈ normalize .exact text.toList, c ≠ '*' ∧ c ≠ '\x7b' ∧ c ≠ '\x7d' := by
    intro c hc
    obtain rfl | hmem := mem_of_isStem (isStem_normalize text.toList) c hc
    · decide
    · exact h c hmem
  simp only [isMatch_iff_denotes (.of_literal h) hp, denotes_iff_eq hstem]
  exact ⟨fun ⟨_, n, hpath, hword⟩ => ⟨n, hword ▸ hpath⟩, fun ⟨n, hpath⟩ => ⟨_, n, hpath, rfl⟩⟩

/-- A pattern that is built from literal characters, stars and captures compiles, unless the machine
for it is too large; and it matches a path if and only if the path consists of a word that the stem
of the pattern denotes and slashes. If there are neither stars nor captures, that word is the stem
itself. -/
theorem compile_plain (text : String) (h : Plain [] text.toList) :
    IsStem text.toList (normalize .exact text.toList) ∧
      (compile .exact text = .error (.invalidRegex text .tooLarge) ∨
        ∃ p, compile .exact text = .ok p ∧
          (∀ path : String, p.isMatch path = true ↔
            ∃ word n, path.toList = word ++ List.replicate n '/' ∧
              Denotes (normalize .exact text.toList) word) ∧
          ((∀ c ∈ text.toList, c ≠ '*' ∧ c ≠ '\x7b' ∧ c ≠ '\x7d') →
            ∀ path : String, p.isMatch path = true ↔
              ∃ n, path.toList = normalize .exact text.toList ++ List.replicate n '/')) := by
  have hstem := isStem_normalize text.toList
  refine ⟨hstem, ?_⟩
  obtain ⟨atoms, htokens, hnamed, hdenotes⟩ := (h.of_isStem hstem).readable.1
  have hcompile := compile_exact htokens hnamed
  split at hcompile
  · obtain ⟨p, hp, hprogram⟩ : ∃ p, compile .exact text = .ok p ∧
        p.regex.program = (Atom.exactExpr atoms).expand.program := ⟨_, hcompile, rfl⟩
    refine .inr ⟨p, hp, ?_, ?_⟩
    · intro path
      simp only [isMatch_iff_of_atoms hprogram, hdenotes]
    · intro hliteral path
      have hstemliteral : ∀ c ∈ normalize .exact text.toList,
          c ≠ '*' ∧ c ≠ '\x7b' ∧ c ≠ '\x7d' := by
        intro c hc
        obtain rfl | hmem := mem_of_isStem hstem c hc
        · decide
        · exact hliteral c hmem
      simp only [isMatch_iff_of_atoms hprogram, ← hdenotes, denotes_iff_eq hstemliteral]
      constructor
      · rintro ⟨_, n, hpath, rfl⟩
        exact ⟨n, hpath⟩
      · rintro ⟨n, hpath⟩
        exact ⟨_, n, hpath, rfl⟩
  · exact .inl hcompile

theorem compile_plain_segments : Plain [] "u/\x7bid\x7d/*//".toList ∧
    ∃ p, compile .exact "u/\x7bid\x7d/*//" = .ok p ∧ p.isMatch "/u/7/x/" = true := by
  have htext : "u/\x7bid\x7d/*//".toList =
      'u' :: '/' :: '\x7b' :: (['i', 'd'] ++ '\x7d' :: ['/', '*', '/', '/']) := by decide +kernel
  have hplain : Plain [] "u/\x7bid\x7d/*//".toList := by
    rw [htext]
    refine .literal (by decide) (.literal (by decide) (.capture (by decide) (by decide) ?_))
    exact .literal (by decide) (.star (.literal (by decide) (.literal (by decide) .nil)))
  have hword : Denotes (normalize .exact "u/\x7bid\x7d/*//".toList) "/u/7/x".toList := by
    have hnormalize : normalize .exact "u/\x7bid\x7d/*//".toList =
        '/' :: 'u' :: '/' :: '\x7b' :: (['i', 'd'] ++ '\x7d' :: ['/', '*']) := by decide +kernel
    rw [hnormalize]
    refine .literal (by decide) (.literal (by decide) (.literal (by decide) ?_))
    refine .capture (u := ['7']) (by decide) (by decide) (.literal (by decide) ?_)
    exact .segment (u := ['x']) (by decide) (by decide) .nil
  refine ⟨hplain, ?_⟩
  obtain ⟨-, hlarge | ⟨p, hp, hmatch, -⟩⟩ := compile_plain "u/\x7bid\x7d/*//" hplain
  · have hsome : (compile .exact "u/\x7bid\x7d/*//").toOption.isSome = true := by decide +kernel
    rw [hlarge] at hsome
    exact absurd hsome (by decide)
  · exact ⟨p, hp, (hmatch _).mpr ⟨_, 1, by decide +kernel, hword⟩⟩

end Pattern

end Signpost
