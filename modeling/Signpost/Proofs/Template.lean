import Mathlib.Logic.ExistsUnique
import Signpost.Proofs.Text
import Signpost.Template

/-!
# How templates are read

A text is in exactly one way a sequence of literal texts and holes with a rest in which nothing is
closed (`Template.Decomposition`). Expanding copies the literal texts and the rest and puts a value
into each hole (`Template.expand_decomposed`); the values are not read again, whatever they hold. So
a text that leaves no rest is expanded apart from what follows it.
-/

namespace Signpost

namespace Template

/-! ## Filling piece by piece -/

theorem fill_parse_cons (vars : Vars) {c : Char} (hc : c ≠ '\x7b') (s : List Char) :
    (parse (c :: s)).fill vars = c :: (parse s).fill vars := by
  have hcut : Text.cut? '\x7b' (c :: s) =
      (Text.cut? '\x7b' s).map fun found => (c :: found.1, found.2) := by
    rw [Text.cut?, if_neg hc]
  rw [parse, hcut, parse]
  cases Text.cut? '\x7b' s with
  | none => rfl
  | some found =>
    obtain ⟨before, rest⟩ := found
    dsimp only [Option.map_some]
    cases Text.cut? '\x7d' rest with
    | none => rfl
    | some found => rfl

theorem fill_parse_literal (vars : Vars) {literal : List Char} (h : '\x7b' ∉ literal)
    (s : List Char) : (parse (literal ++ s)).fill vars = literal ++ (parse s).fill vars := by
  induction literal with
  | nil => rfl
  | cons c literal ih =>
    obtain ⟨hc, hliteral⟩ := not_or.mp (mt List.mem_cons.mpr h)
    rw [List.cons_append, fill_parse_cons vars (Ne.symm hc), ih hliteral, List.cons_append]

/-- A name in braces is filled with the value of the variable. -/
theorem fill_parse_hole (vars : Vars) {name : List Char} (hname : '\x7d' ∉ name) (s : List Char) :
    (parse ('\x7b' :: (name ++ '\x7d' :: s))).fill vars =
      (Vars.getOrEmpty vars (String.ofList name)).toList ++ (parse s).fill vars := by
  rw [parse, Text.cut?, if_pos rfl]
  dsimp only
  rw [Text.cut?_append hname]
  simp [fill, Piece.fill]

/-- An opening brace that is never closed is text, with all that follows it. -/
theorem fill_parse_open (vars : Vars) {s : List Char} (h : '\x7d' ∉ s) :
    (parse ('\x7b' :: s)).fill vars = '\x7b' :: s := by
  rw [parse, Text.cut?, if_pos rfl]
  dsimp only
  rw [Text.cut?_of_not_mem h]
  simp [fill, Piece.fill]

/-! ## Decompositions -/

/-- How a text is read: as literal texts that each stand before a hole, given with the name in the
hole, one more literal text, and a rest that is empty or begins with an opening brace and closes
none. -/
@[ext]
structure Decomposition where
  holes : List (List Char × List Char)
  literal : List Char
  rest : List Char
  not_mem_before : ∀ hole ∈ holes, '\x7b' ∉ hole.1
  not_mem_name : ∀ hole ∈ holes, '\x7d' ∉ hole.2
  not_mem_literal : '\x7b' ∉ literal
  rest_open : rest = [] ∨ ∃ s, rest = '\x7b' :: s ∧ '\x7d' ∉ s

namespace Decomposition

/-- The text that is decomposed. -/
def source (d : Decomposition) : List Char :=
  d.holes.flatMap (fun hole => hole.1 ++ '\x7b' :: (hole.2 ++ ['\x7d'])) ++ (d.literal ++ d.rest)

/-- The text with the value of its variable, or nothing, in the place of each hole. -/
def fill (vars : Vars) (d : Decomposition) : List Char :=
  d.holes.flatMap (fun hole => hole.1 ++ (Vars.getOrEmpty vars (String.ofList hole.2)).toList) ++
    (d.literal ++ d.rest)

/-- A text without holes and without a rest. -/
def plain (literal : List Char) (h : '\x7b' ∉ literal) : Decomposition :=
  ⟨[], literal, [], nofun, nofun, h, .inl rfl⟩

/-- A text without holes whose rest begins with an opening brace. -/
def opened (literal s : List Char) (h : '\x7b' ∉ literal) (hs : '\x7d' ∉ s) : Decomposition :=
  ⟨[], literal, '\x7b' :: s, nofun, nofun, h, .inr ⟨s, rfl, hs⟩⟩

/-- One more literal text and one more hole before the others. -/
def cons (before name : List Char) (hbefore : '\x7b' ∉ before) (hname : '\x7d' ∉ name)
    (d : Decomposition) : Decomposition :=
  { d with
    holes := (before, name) :: d.holes
    not_mem_before := List.forall_mem_cons.mpr ⟨hbefore, d.not_mem_before⟩
    not_mem_name := List.forall_mem_cons.mpr ⟨hname, d.not_mem_name⟩ }

@[elab_as_elim, induction_eliminator]
theorem induction {motive : Decomposition → Prop} (plain : ∀ literal h, motive (plain literal h))
    (opened : ∀ literal s h hs, motive (opened literal s h hs))
    (cons : ∀ before name hbefore hname d, motive d → motive (cons before name hbefore hname d))
    (d : Decomposition) : motive d := by
  obtain ⟨holes, literal, rest, hbefore, hname, hliteral, hrest⟩ := d
  induction holes with
  | nil =>
    obtain rfl | ⟨s, rfl, hs⟩ := hrest
    · exact plain literal hliteral
    · exact opened literal s hliteral hs
  | cons hole holes ih =>
    obtain ⟨hbefore, hbefores⟩ := List.forall_mem_cons.mp hbefore
    obtain ⟨hname, hnames⟩ := List.forall_mem_cons.mp hname
    exact cons hole.1 hole.2 hbefore hname _ (ih hbefores hnames)

section

variable {before name literal s : List Char} (h : '\x7b' ∉ literal) (hs : '\x7d' ∉ s)
  (hbefore : '\x7b' ∉ before) (hname : '\x7d' ∉ name) (d : Decomposition) (vars : Vars)

theorem source_plain : (plain literal h).source = literal := List.append_nil literal

theorem source_opened : (opened literal s h hs).source = literal ++ '\x7b' :: s := rfl

theorem source_cons : (d.cons before name hbefore hname).source =
    before ++ '\x7b' :: (name ++ '\x7d' :: d.source) := by
  simp [source, cons]

@[simp]
theorem cut?_source_plain : Text.cut? '\x7b' (plain literal h).source = none := by
  rw [source_plain, Text.cut?_of_not_mem h]

@[simp]
theorem cut?_source_opened :
    Text.cut? '\x7b' (opened literal s h hs).source = some (literal, s) := by
  rw [source_opened, Text.cut?_append h]

@[simp]
theorem cut?_source_cons : Text.cut? '\x7b' (d.cons before name hbefore hname).source =
    some (before, name ++ '\x7d' :: d.source) := by
  rw [source_cons, Text.cut?_append hbefore]

theorem fill_cons : (d.cons before name hbefore hname).fill vars =
    before ++ (Vars.getOrEmpty vars (String.ofList name)).toList ++ d.fill vars := by
  simp [fill, cons]

end

theorem exists_source_eq (s : List Char) : ∃ d : Decomposition, d.source = s := by
  fun_induction parse s with
  | case1 s hcut => exact ⟨plain s (Text.cut?_eq_none_iff.mp hcut), source_plain _⟩
  | case2 s before rest hcut hclose =>
    refine ⟨opened before rest (Text.not_mem_of_cut? hcut) (Text.cut?_eq_none_iff.mp hclose), ?_⟩
    rw [source_opened, ← Text.eq_of_cut? hcut]
  | case3 s before rest hcut name rest' hclose ih =>
    obtain ⟨d, hd⟩ := ih
    refine ⟨d.cons before name (Text.not_mem_of_cut? hcut) (Text.not_mem_of_cut? hclose), ?_⟩
    rw [source_cons, hd, ← Text.eq_of_cut? hclose, ← Text.eq_of_cut? hcut]

/-- The braces of a text tell how it is decomposed. -/
theorem eq_of_source_eq {d d' : Decomposition} (h : d.source = d'.source) : d = d' := by
  have hopen := congrArg (Text.cut? '\x7b') h
  induction d generalizing d' with
  | plain literal hliteral =>
    induction d' with
    | plain literal' hliteral' =>
      rw [source_plain, source_plain] at h
      subst h
      rfl
    | opened | cons => simp at hopen
  | opened literal s hliteral hs =>
    induction d' with
    | plain => simp at hopen
    | opened literal' s' hliteral' hs' =>
      obtain ⟨rfl, rfl⟩ : literal = literal' ∧ s = s' := by simpa using hopen
      rfl
    | cons before' name' hbefore' hname' d' =>
      obtain ⟨rfl, rfl⟩ : literal = before' ∧ s = name' ++ '\x7d' :: d'.source := by
        simpa using hopen
      simp at hs
  | cons before name hbefore hname d ih =>
    induction d' with
    | plain => simp at hopen
    | opened literal' s' hliteral' hs' =>
      obtain ⟨rfl, rfl⟩ : before = literal' ∧ name ++ '\x7d' :: d.source = s' := by
        simpa using hopen
      simp at hs'
    | cons before' name' hbefore' hname' d' =>
      obtain ⟨rfl, hafter⟩ : before = before' ∧
          name ++ '\x7d' :: d.source = name' ++ '\x7d' :: d'.source := by simpa using hopen
      have hclose := congrArg (Text.cut? '\x7d') hafter
      rw [Text.cut?_append hname, Text.cut?_append hname', Option.some_inj, Prod.mk.injEq]
        at hclose
      obtain ⟨rfl, hrest⟩ := hclose
      rw [ih hrest (congrArg _ hrest)]

/-- A text is filled as it is decomposed; where it leaves no rest, so it is whatever follows. -/
theorem fill_parse_append (vars : Vars) (d : Decomposition) (s : List Char)
    (h : d.rest = [] ∨ s = []) :
    (parse (d.source ++ s)).fill vars = d.fill vars ++ (parse s).fill vars := by
  induction d with
  | plain literal hliteral =>
    rw [source_plain, fill_parse_literal vars hliteral]
    exact congrArg (· ++ _) (List.append_nil literal).symm
  | opened literal s' hliteral hs =>
    obtain rfl := h.resolve_left (List.cons_ne_nil _ _)
    rw [List.append_nil, source_opened, fill_parse_literal vars hliteral, fill_parse_open vars hs]
    simp [parse, Text.cut?, Template.fill, Piece.fill, opened, fill]
  | cons before name hbefore hname d ih =>
    rw [source_cons, fill_cons, List.append_assoc, List.cons_append, List.append_assoc,
      List.cons_append, fill_parse_literal vars hbefore, fill_parse_hole vars hname, ih h,
      List.append_assoc, List.append_assoc]

theorem fill_parse (vars : Vars) (d : Decomposition) :
    (parse d.source).fill vars = d.fill vars := by
  have hempty : (parse []).fill vars = [] := by simp [parse, Text.cut?, Template.fill, Piece.fill]
  have h := d.fill_parse_append vars [] (.inr rfl)
  rwa [hempty, List.append_nil, List.append_nil] at h

end Decomposition

/-! ## Expanding -/

/-- A text has one decomposition, and expanding the text copies what is literal in it and the rest
and puts the values into the holes. Where there is no rest, what follows does not matter: both texts
are expanded apart. -/
theorem expand_decomposed (text : String) :
    (∃! d : Decomposition, d.source = text.toList) ∧
      ∀ d : Decomposition, d.source = text.toList → ∀ vars : Vars,
        expand vars text = String.ofList (d.fill vars) ∧
          (d.rest = [] → ∀ text' : String,
            expand vars (text ++ text') = expand vars text ++ expand vars text') := by
  obtain ⟨d, hd⟩ := Decomposition.exists_source_eq text.toList
  refine ⟨⟨d, hd, fun d' hd' => Decomposition.eq_of_source_eq (hd'.trans hd.symm)⟩, ?_⟩
  intro d hd vars
  have hfill : expand vars text = String.ofList (d.fill vars) := by
    rw [expand, ← hd, d.fill_parse]
  refine ⟨hfill, fun hrest text' => ?_⟩
  rw [hfill, expand, String.toList_append, ← hd, d.fill_parse_append vars _ (.inl hrest),
    String.ofList_append]
  rfl

/-- A value that looks like a hole is not filled, and a name may hold an opening brace. -/
theorem expand_decomposed_nested :
    let vars : Vars := (Dict.empty.insert "a" "\x7bb\x7d").insert "b" "x"
    expand vars "<\x7ba\x7d\x7b\x7bb\x7d>" = "<\x7bb\x7d>" ∧
      expand vars ("<\x7ba\x7d\x7b\x7bb\x7d>" ++ "\x7bb\x7d\x7bb") =
        expand vars "<\x7ba\x7d\x7b\x7bb\x7d>" ++ expand vars "\x7bb\x7d\x7bb" := by
  intro vars
  let d : Decomposition :=
    ⟨[(['<'], ['a']), ([], ['\x7b', 'b'])], ['>'], [], by decide, by decide, by decide, .inl rfl⟩
  have hsource : d.source = "<\x7ba\x7d\x7b\x7bb\x7d>".toList := by decide
  obtain ⟨hexpand, happend⟩ := (expand_decomposed "<\x7ba\x7d\x7b\x7bb\x7d>").2 d hsource vars
  refine ⟨hexpand.trans ?_, happend rfl _⟩
  decide

end Template

end Signpost
