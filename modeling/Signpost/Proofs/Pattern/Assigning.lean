import Signpost.Proofs.Pattern.Joining

/-!
# The values that a word gives to the captures

`Pattern.Assigns` reads a word with the text of a pattern in hand, as `Pattern.Denotes` does, and
keeps what each capture takes. The words that the atoms of the text pick are such a reading
(`Pattern.Reading.assigns`), and a match writes its values over the variables, each to the name of
its capture (`Pattern.get?_values`).
-/

namespace Signpost

namespace Pattern

/-- The text denotes the word, and its captures, in order, take the values. -/
inductive Assigns : List Char → List Char → List (String × String) → Prop
  | nil : Assigns [] [] []
  | literal {c : Char} {s w : List Char} {values : List (String × String)}
      (hc : c ≠ '*' ∧ c ≠ '\x7b' ∧ c ≠ '\x7d') (h : Assigns s w values) :
      Assigns (c :: s) (c :: w) values
  | segment {s u w : List Char} {values : List (String × String)} (hs : s.head? ≠ some '*')
      (hu : u ≠ [] ∧ '/' ∉ u) (h : Assigns s w values) : Assigns ('*' :: s) (u ++ w) values
  | rest {s u w : List Char} {values : List (String × String)} (hu : u ≠ [] ∧ '\n' ∉ u)
      (h : Assigns s w values) : Assigns ('*' :: '*' :: s) (u ++ w) values
  | capture {name s u w : List Char} {values : List (String × String)}
      (hname : isName name = true) (hu : u ≠ [] ∧ '/' ∉ u) (h : Assigns s w values) :
      Assigns ('\x7b' :: (name ++ '\x7d' :: s)) (u ++ w)
        ((String.ofList name, String.ofList u) :: values)

variable {names : List (List Char)} {s w : List Char} {atoms : List Atom}
  {values : List (String × String)}

theorem Assigns.denotes (h : Assigns s w values) : Denotes s w := by
  induction h with
  | nil => exact .nil
  | literal hc _ ih => exact .literal hc ih
  | segment hs hu _ ih => exact .segment hs hu ih
  | rest hu _ ih => exact .rest hu ih
  | capture hname hu _ ih => exact .capture hname hu ih

/-! ## One reading only -/

theorem assigns_literal_iff {c : Char} (hc : c ≠ '*' ∧ c ≠ '\x7b' ∧ c ≠ '\x7d') :
    Assigns (c :: s) w values ↔ ∃ v, w = c :: v ∧ Assigns s v values := by
  constructor
  · intro h
    cases h with
    | literal _ h => exact ⟨_, rfl, h⟩
    | segment => exact absurd rfl hc.1
    | rest => exact absurd rfl hc.1
    | capture => exact absurd rfl hc.2.1
  · rintro ⟨v, rfl, h⟩
    exact .literal hc h

theorem assigns_capture_iff {name : List Char} (hname : isName name = true) :
    Assigns ('\x7b' :: (name ++ '\x7d' :: s)) w values ↔ ∃ u v more, w = u ++ v ∧
      values = (String.ofList name, String.ofList u) :: more ∧ (u ≠ [] ∧ '/' ∉ u) ∧
      Assigns s v more := by
  constructor
  · intro h
    generalize htext : '\x7b' :: (name ++ '\x7d' :: s) = text at h
    cases h with
    | nil => cases htext
    | literal hc => exact absurd (List.cons.inj htext).1.symm hc.2.1
    | segment => exact absurd (List.cons.inj htext).1 (by decide)
    | rest => exact absurd (List.cons.inj htext).1 (by decide)
    | capture hname' hu h =>
      obtain ⟨rfl, rfl⟩ := eq_of_append_brace_eq (brace_not_mem_of_isName hname)
        (brace_not_mem_of_isName hname') (List.cons.inj htext).2
      exact ⟨_, _, _, rfl, rfl, hu, h⟩
  · rintro ⟨u, v, more, rfl, rfl, hu, h⟩
    exact .capture hname hu h

/-- Behind every capture the text ends, or a slash stands there. -/
def EndsSegments (s : List Char) : Prop :=
  ∀ t, '\x7d' :: t <:+ s → t = [] ∨ t.head? = some '/'

theorem EndsSegments.of_suffix {t : List Char} (h : EndsSegments s) (ht : t <:+ s) :
    EndsSegments t :=
  fun _ hr => h _ (hr.trans ht)

/-- A word ends, or goes on with a slash, where its text does. -/
theorem Assigns.boundary (h : Assigns s w values) (hs : s = [] ∨ s.head? = some '/') :
    w = [] ∨ w.head? = some '/' := by
  rcases hs with rfl | hs
  · cases h
    exact .inl rfl
  · obtain ⟨t, rfl⟩ := List.head?_eq_some_iff.mp hs
    obtain ⟨v, rfl, -⟩ := (assigns_literal_iff (by decide)).mp h
    exact .inr rfl

/-- Where every capture ends its segment, each takes what is left of the segment, so a word gives
them one list of values only. -/
theorem Assigns.unique (h : Assigns s w values) (hstar : '*' ∉ s) (hends : EndsSegments s) :
    ∀ {values'}, Assigns s w values' → values = values' := by
  induction h with
  | nil =>
    intro values' h'
    cases h'
    rfl
  | @literal c s w values hc _ ih =>
    intro values' h'
    obtain ⟨v, heq, h'⟩ := (assigns_literal_iff hc).mp h'
    obtain ⟨-, rfl⟩ := List.cons.inj heq
    exact ih (fun hmem => hstar (List.mem_cons_of_mem c hmem))
      (hends.of_suffix (List.suffix_cons c s)) h'
  | segment | rest => exact absurd List.mem_cons_self hstar
  | @capture name s u w values hname hu h ih =>
    intro values' h'
    obtain ⟨u', v, more, heq, rfl, hu', hmore⟩ := (assigns_capture_iff hname).mp h'
    have hsuffix : '\x7d' :: s <:+ '\x7b' :: (name ++ '\x7d' :: s) :=
      (List.suffix_append name _).trans (List.suffix_cons _ _)
    have hend := hends s hsuffix
    have hcount : u.count '/' = u'.count '/' := by
      rw [List.count_eq_zero.mpr hu.2, List.count_eq_zero.mpr hu'.2]
    obtain rfl : w = v :=
      Atom.rest_eq_of_count_eq heq hcount (h.boundary hend) (hmore.boundary hend)
    obtain rfl : u = u' := List.append_cancel_right heq
    have hrest : s <:+ '\x7b' :: (name ++ '\x7d' :: s) := (List.suffix_cons _ s).trans hsuffix
    rw [ih (fun hmem => hstar (hrest.mem hmem)) (hends.of_suffix hrest) hmore]

/-! ## Words of the atoms -/

/-- The words stand for the atoms, one each, and leave nothing between them. -/
theorem Atom.Picks.forall₂ {H : List Char → Prop} {us : List (List Char)} {r : List Char}
    (h : Picks H atoms s us r) : List.Forall₂ Denotes atoms us := by
  induction h with
  | nil => exact .nil
  | cons hu _ _ ih => exact .cons hu ih

/-- The words of a reading, taken apart by its atoms, give the captures their values. -/
theorem Reading.assigns (h : Reading names s atoms) :
    ∀ {us : List (List Char)}, List.Forall₂ Atom.Denotes atoms us →
      Assigns s us.flatten (Atom.values atoms us) := by
  induction h with
  | nil =>
    intro us hus
    cases hus
    exact .nil
  | literal hc _ ih =>
    intro us hus
    cases hus with
    | cons hu hus =>
      obtain rfl : _ = [_] := hu
      exact .literal hc (ih hus)
  | segment hs _ ih =>
    intro us hus
    cases hus with
    | cons hu hus => exact .segment hs hu (ih hus)
  | rest _ ih =>
    intro us hus
    cases hus with
    | cons hu hus => exact .rest hu (ih hus)
  | capture hname _ _ ih =>
    intro us hus
    cases hus with
    | cons hu hus => exact .capture hname hu (ih hus)

/-- Without stars, values that are not empty and without a slash can be put in for the captures. -/
theorem Reading.exists_assigns (h : Reading names s atoms) (hstar : '*' ∉ s) :
    ∀ {values}, values.map (·.1) = Atom.captureNames atoms →
      (∀ e ∈ values, e.2.toList ≠ [] ∧ '/' ∉ e.2.toList) → ∃ w, Assigns s w values := by
  induction h with
  | nil =>
    intro values hnames _
    obtain rfl := List.map_eq_nil_iff.mp hnames
    exact ⟨[], .nil⟩
  | @literal _ c s _ hc _ ih =>
    intro values hnames hvalues
    obtain ⟨w, hw⟩ := ih (fun hmem => hstar (List.mem_cons_of_mem c hmem)) hnames hvalues
    exact ⟨c :: w, .literal hc hw⟩
  | segment | rest => exact absurd List.mem_cons_self hstar
  | @capture _ name s _ hname _ _ ih =>
    intro values hnames hvalues
    obtain ⟨e, more, rfl, he, hmore⟩ := List.map_eq_cons_iff.mp hnames
    obtain ⟨hvalue, hrest⟩ := List.forall_mem_cons.mp hvalues
    have hstar' : '*' ∉ s := fun hmem => hstar (by simp [hmem])
    obtain ⟨w, hw⟩ := ih hstar' hmore hrest
    have hassigns := Assigns.capture hname hvalue hw
    rw [String.ofList_toList, ← he] at hassigns
    exact ⟨_, hassigns⟩

/-! ## Names of the captures -/

theorem Atom.map_fst_values {us : List (List Char)} (h : List.Forall₂ Denotes atoms us) :
    (Atom.values atoms us).map (·.1) = captureNames atoms := by
  induction h with
  | nil => rfl
  | @cons a u atoms us _ _ ih =>
    cases a with
    | capture name => exact congrArg (String.ofList name :: ·) ih
    | _ => exact ih

theorem Atom.Named.captureNames_nodup (h : Named names atoms) :
    (captureNames atoms).Nodup ∧ ∀ name ∈ names, String.ofList name ∉ captureNames atoms := by
  induction atoms generalizing names with
  | nil => exact ⟨List.nodup_nil, fun _ _ => List.not_mem_nil⟩
  | cons a atoms ih =>
    cases a with
    | capture name =>
      obtain ⟨-, hfresh, hrest⟩ := h
      obtain ⟨hnodup, hnot⟩ := ih hrest
      refine ⟨List.nodup_cons.mpr ⟨hnot name List.mem_cons_self, hnodup⟩, ?_⟩
      intro other hother hmem
      rcases List.mem_cons.mp hmem with heq | hmem
      · rw [String.ofList_inj] at heq
        exact hfresh (heq ▸ hother)
      · exact hnot other (List.mem_cons_of_mem name hother) hmem
    | _ => exact ih h

/-- A pattern that is compiled from atoms has the names of their captures. -/
theorem OfAtoms.names_eq {p : Pattern} {mode : Mode} (h : p.OfAtoms mode atoms) :
    p.names = Atom.captureNames atoms := by
  obtain ⟨source, hregex⟩ := h.regex_eq
  obtain ⟨n, hgroups⟩ : ∃ n, p.regex.groupNames =
      (Atom.captureNames atoms).map some ++ List.replicate n none := by
    rw [hregex]
    cases mode with
    | exact => exact ⟨0, Regex.groupNames_ofExpr (Atom.groups_wholeExpr Atom.exactTail rfl)⟩
    | mount =>
      exact ⟨1, Regex.groupNames_ofExpr
        (Atom.groups_wholeExpr (Atom.mountTail (Atom.groupCount atoms + 1)) rfl)⟩
  rw [names, Regex.namedGroups_eq hgroups]
  exact List.zipIdx_map_fst 1 _

/-- Where values are laid over variables, a name has its value, and any other name keeps what it
had. -/
theorem get?_values (h : Atom.Named [] atoms) {us : List (List Char)}
    (hus : List.Forall₂ Atom.Denotes atoms us) (vars : Vars) (key : String) :
    ((Atom.values atoms us).foldl (fun d e => d.insert e.1 e.2) vars).get? key =
      (Dict.find? key (Atom.values atoms us)).or (vars.get? key) := by
  apply Dict.get?_foldl_insert
  rw [Atom.map_fst_values hus]
  exact h.captureNames_nodup.1

end Pattern

end Signpost
