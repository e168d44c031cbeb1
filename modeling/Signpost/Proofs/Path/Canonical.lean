import Signpost.App
import Signpost.Proofs.Text

/-!
# Canonical paths

Cleaning makes every path canonical and leaves canonical paths alone (`Path.canonical_iff`). The
elements of a joined path are those of the base and then those of the rest, if the rest is canonical
(`Path.elements_join_eq`); so an application finds back what was joined to its base path
(`App.routePath?_join`).
-/

namespace Signpost

namespace Path

/-! ## Walks -/

theorem walk_append (pieces pieces' : List (List Char)) : ∀ walked,
    walk walked (pieces ++ pieces') = walk (walk walked pieces).reverse pieces' := by
  induction pieces with
  | nil =>
    intro walked
    rw [walk, List.reverse_reverse, List.nil_append]
  | cons piece pieces ih =>
    intro walked
    rw [List.cons_append, walk, walk]
    split
    · exact ih walked
    · split
      · exact ih walked.tail
      · exact ih (piece :: walked)

theorem walk_nil_cons (walked pieces : List (List Char)) :
    walk walked ([] :: pieces) = walk walked pieces := by
  rw [walk, if_pos (.inl rfl)]

theorem walk_cons_of_isElement (walked pieces : List (List Char)) {e : List Char}
    (h : IsElement e) : walk walked (e :: pieces) = walk (e :: walked) pieces := by
  obtain ⟨hne, hdot, hup, -⟩ := h
  rw [walk, if_neg (not_or.mpr ⟨hne, hdot⟩), if_neg hup]

theorem walk_of_isElement {es : List (List Char)} (h : ∀ e ∈ es, IsElement e) : ∀ walked,
    walk walked es = walked.reverse ++ es := by
  induction es with
  | nil => exact fun walked => (List.append_nil _).symm
  | cons e es ih =>
    intro walked
    obtain ⟨he, hes⟩ := List.forall_mem_cons.mp h
    rw [walk_cons_of_isElement walked es he, ih hes, List.reverse_cons, List.append_assoc,
      List.singleton_append]

instance : DecidablePred IsElement := fun e =>
  inferInstanceAs (Decidable (e ≠ [] ∧ e ≠ ['.'] ∧ e ≠ ['.', '.'] ∧ '/' ∉ e))

theorem isElement_of_mem {e : List Char} {c : Char} (h : c ∈ e) (hc : c ≠ '.') (hslash : '/' ∉ e) :
    IsElement e := by
  refine ⟨List.ne_nil_of_mem h, ?_, ?_, hslash⟩
  · rintro rfl
    exact hc (List.mem_singleton.mp h)
  · rintro rfl
    exact hc (by simpa using h)

theorem isElement_of_mem_walk {pieces : List (List Char)} (hpieces : ∀ p ∈ pieces, '/' ∉ p) :
    ∀ walked, (∀ e ∈ walked, IsElement e) → ∀ e ∈ walk walked pieces, IsElement e := by
  induction pieces with
  | nil => exact fun walked h e he => h e (List.mem_reverse.mp he)
  | cons piece pieces ih =>
    intro walked h
    have hrest : ∀ p ∈ pieces, '/' ∉ p := fun p hp => hpieces p (List.mem_cons_of_mem _ hp)
    rw [walk]
    split
    · exact ih hrest walked h
    · next hkept =>
      split
      · exact ih hrest walked.tail fun e he => h e (List.mem_of_mem_tail he)
      · next hup =>
        obtain ⟨hne, hdot⟩ := not_or.mp hkept
        refine ih hrest (piece :: walked) fun e he => ?_
        obtain rfl | he := List.mem_cons.mp he
        · exact ⟨hne, hdot, hup, hpieces e List.mem_cons_self⟩
        · exact h e he

theorem isElement_of_mem_elements {path e : List Char} (h : e ∈ elements path) : IsElement e :=
  isElement_of_mem_walk (fun _ hp => Text.not_mem_of_mem_split hp) [] (by simp) e h

theorem elements_cons_slash (s : List Char) : elements ('/' :: s) = walk [] (Text.split '/' s) := by
  rw [elements, Text.split_cons_self, walk_nil_cons]

/-! ## Texts of elements -/

theorem split_flatMap {es : List (List Char)} (h : ∀ e ∈ es, IsElement e) :
    Text.split '/' (es.flatMap ('/' :: ·)) = [] :: es := by
  induction es with
  | nil => rfl
  | cons e es ih =>
    have hrest := ih fun e he => h e (List.mem_cons_of_mem _ he)
    have he := Text.split_of_not_mem (h e List.mem_cons_self).2.2.2
    rw [List.flatMap_cons, List.cons_append, Text.split_cons_self]
    cases es with
    | nil => rw [List.flatMap_nil, List.append_nil, he]
    | cons e' es =>
      rw [List.flatMap_cons, List.cons_append, Text.split_append, he]
      rw [List.flatMap_cons, List.cons_append, Text.split_cons_self] at hrest
      rw [(List.cons.inj hrest).2]
      rfl

theorem ofElements_eq_flatMap {es : List (List Char)} (h : es ≠ []) :
    ofElements es = es.flatMap ('/' :: ·) := by
  cases es with
  | nil => exact absurd rfl h
  | cons => rfl

theorem walk_split_ofElements {es : List (List Char)} (h : ∀ e ∈ es, IsElement e)
    (walked : List (List Char)) :
    walk walked (Text.split '/' (ofElements es)) = walked.reverse ++ es := by
  cases es with
  | nil => simp [ofElements, Text.split, walk]
  | cons e es =>
    rw [ofElements, split_flatMap h, walk_nil_cons, walk_of_isElement h]
    exact List.cons_ne_nil e es

theorem elements_flatMap {es : List (List Char)} (h : ∀ e ∈ es, IsElement e) :
    elements (es.flatMap ('/' :: ·)) = es := by
  rw [elements, split_flatMap h, walk_nil_cons, walk_of_isElement h]
  rfl

theorem elements_ofElements {es : List (List Char)} (h : ∀ e ∈ es, IsElement e) :
    elements (ofElements es) = es :=
  walk_split_ofElements h []

/-! ## Canonical paths -/

theorem toList_clean (path : String) : (clean path).toList = ofElements (elements path.toList) :=
  String.toList_ofList

theorem elements_clean (path : String) : elements (clean path).toList = elements path.toList := by
  rw [toList_clean]
  exact elements_ofElements fun _ => isElement_of_mem_elements

theorem canonical_clean (path : String) : Canonical (clean path) :=
  ⟨_, fun _ => isElement_of_mem_elements, rfl⟩

/-- The paths that cleaning leaves alone. -/
theorem canonical_iff {path : String} : Canonical path ↔ clean path = path := by
  constructor
  · rintro ⟨es, hes, rfl⟩
    rw [clean, String.toList_ofList, elements_ofElements hes]
  · intro h
    exact h ▸ canonical_clean path

theorem Canonical.clean_eq {path : String} (h : Canonical path) : clean path = path :=
  canonical_iff.mp h

theorem Canonical.toList_eq {path : String} (h : Canonical path) :
    path.toList = ofElements (elements path.toList) := by
  rw [← toList_clean, h.clean_eq]

theorem Canonical.eq_of_elements_eq {path path' : String} (h : Canonical path)
    (h' : Canonical path') (heq : elements path.toList = elements path'.toList) : path = path' := by
  rw [← String.toList_inj, h.toList_eq, heq, ← h'.toList_eq]

theorem canonical_join (base rest : String) : Canonical (join base rest) := canonical_clean _

/-- Joining walks on from the elements of the base path. -/
theorem elements_join_walk (base rest : String) :
    elements (join base rest).toList =
      walk (elements base.toList).reverse (Text.split '/' rest.toList) := by
  have htext : (base ++ "/" ++ rest).toList = base.toList ++ '/' :: rest.toList := by
    rw [String.toList_append, String.toList_append, List.append_assoc]
    rfl
  rw [join, elements_clean, htext, elements, Text.split_append, walk_append]
  rfl

theorem elements_join_eq (base : String) {rest : String} (h : Canonical rest) :
    elements (join base rest).toList = elements base.toList ++ elements rest.toList := by
  rw [elements_join_walk, h.toList_eq, walk_split_ofElements fun _ => isElement_of_mem_elements,
    List.reverse_reverse, ← h.toList_eq]

theorem toList_join (base : String) {rest : String} (h : Canonical rest) :
    (join base rest).toList = ofElements (elements base.toList ++ elements rest.toList) := by
  rw [(canonical_join base rest).toList_eq, elements_join_eq base h]

theorem join_root {rest : String} (h : Canonical rest) : join "/" rest = rest := by
  rw [← String.toList_inj, toList_join "/" h]
  exact h.toList_eq.symm

/-- What begins with a slash may be written right behind a base path. -/
theorem clean_append (base : String) {rest : String} (h : rest.toList.head? = some '/') :
    clean (base ++ rest) = join base rest := by
  obtain ⟨t, ht⟩ := List.head?_eq_some_iff.mp h
  have hslash : ("/" : String).toList = ['/'] := by decide
  have helements : elements (base ++ rest).toList = elements (base ++ "/" ++ rest).toList := by
    simp only [elements, String.toList_append, hslash, ht, List.append_assoc, List.singleton_append,
      Text.split_append, walk_append]
    rw [Text.split_cons_self, walk_nil_cons]
  rw [join, clean, clean, helements]

theorem Canonical.head?_eq {path : String} (h : Canonical path) : path.toList.head? = some '/' := by
  rw [h.toList_eq]
  cases elements path.toList <;> rfl

theorem Canonical.toList_ne_nil {path : String} (h : Canonical path) : path.toList ≠ [] := by
  intro hnil
  have hhead := h.head?_eq
  rw [hnil] at hhead
  cases hhead

theorem elements_ne_nil {path : String} (h : Canonical path) (hroot : path ≠ "/") :
    elements path.toList ≠ [] := by
  intro hnil
  have hpath := h.toList_eq
  rw [hnil] at hpath
  exact hroot (String.toList_inj.mp hpath)

theorem Canonical.toList_eq_flatMap {path : String} (h : Canonical path) (hroot : path ≠ "/") :
    path.toList = (elements path.toList).flatMap ('/' :: ·) := by
  rw [← ofElements_eq_flatMap (elements_ne_nil h hroot), ← h.toList_eq]

/-- Below a canonical base path other than `/`, what is joined stands behind the base path. -/
theorem join_eq_append {base rest : String} (hbase : Canonical base) (hroot : base ≠ "/")
    (h : Canonical rest) :
    (join base rest).toList = base.toList ++ (elements rest.toList).flatMap ('/' :: ·) := by
  have happend : elements base.toList ++ elements rest.toList ≠ [] := by
    simp [elements_ne_nil hbase hroot]
  rw [toList_join base h, ofElements_eq_flatMap happend, List.flatMap_append,
    ← hbase.toList_eq_flatMap hroot]

/-- What stands behind the beginning of a canonical path, from a slash on, consists of elements. -/
theorem exists_elements_of_append {path : String} (h : Canonical path) {w t : List Char}
    (hpath : path.toList = w ++ '/' :: t) (hw : w ≠ []) :
    ∃ es, es ≠ [] ∧ (∀ e ∈ es, IsElement e) ∧ '/' :: t = es.flatMap ('/' :: ·) := by
  refine ⟨Text.split '/' t, Text.split_ne_nil '/' t, ?_, (Text.flatMap_split t).symm⟩
  obtain ⟨es, hes, htext⟩ := h
  rw [← String.toList_inj, String.toList_ofList, hpath] at htext
  cases es with
  | nil =>
    have hlength := congrArg List.length htext
    have hpos := List.length_pos_iff.mpr hw
    simp [ofElements] at hlength
    omega
  | cons e es =>
    have hsplit := split_flatMap hes
    rw [← ofElements, ← htext, Text.split_append] at hsplit
    · cases hfirst : Text.split '/' w with
      | nil => exact absurd hfirst (Text.split_ne_nil '/' w)
      | cons piece pieces =>
        rw [hfirst, List.cons_append] at hsplit
        intro e' he'
        exact hes e' ((List.cons.inj hsplit).2 ▸ List.mem_append_right _ he')
    · exact List.cons_ne_nil e es

/-- Only the root ends with a slash. -/
theorem Canonical.getLast?_ne {path : String} (h : Canonical path) (hroot : path ≠ "/") :
    path.toList.getLast? ≠ some '/' := by
  intro hlast
  obtain ⟨w, hpath⟩ := List.getLast?_eq_some_iff.mp hlast
  have hw : w ≠ [] := by
    rintro rfl
    exact hroot (String.toList_inj.mp (hpath.trans (by decide)))
  obtain ⟨es, hne, hes, ht⟩ := exists_elements_of_append h hpath hw
  cases es with
  | nil => exact hne rfl
  | cons e es =>
    have hempty : e = [] := by
      have htail := (List.cons.inj ht).2
      exact (List.append_eq_nil_iff.mp htail.symm).1
    exact (hes e List.mem_cons_self).1 hempty

/-- The text may stand behind a base path: it is empty or begins with a slash. -/
def IsRest (rest : String) : Prop := rest = "" ∨ rest.toList.head? = some '/'

end Path

/-! ## Below the base path -/

namespace App

variable {ν : Type} {app : App ν} {path target : String}

theorem routePath?_of_root (h : app.basePath = "/") :
    app.routePath? path = some (Path.clean path) :=
  if_pos h

/-- Below another base path than the root, what stands behind the base path is cleaned. -/
theorem routePath?_eq_some_iff (h : app.basePath ≠ "/") : app.routePath? path = some target ↔
    ∃ rest, path = app.basePath ++ rest ∧ Path.IsRest rest ∧ target = Path.clean rest := by
  have hrest : ∀ rest : String,
      (rest.isEmpty || rest.startsWith '/') = true ↔ Path.IsRest rest := by
    intro rest
    rw [Bool.or_eq_true, String.isEmpty_iff, String.startsWith_char_eq_head?, Path.IsRest,
      beq_iff_eq]
  rw [routePath?, if_neg h]
  constructor
  · intro hroute
    split at hroute
    · cases hroute
    · next rest hdrop =>
      dsimp only at hroute
      split at hroute
      · next hbelow =>
        exact ⟨rest.copy, String.eq_append_of_dropPrefix?_string_eq_some hdrop,
          (hrest _).mp hbelow, (Option.some.inj hroute).symm⟩
      · cases hroute
  · rintro ⟨rest, rfl, hbelow, rfl⟩
    obtain ⟨rest', hdrop, heq⟩ := Text.exists_dropPrefix?_append app.basePath rest
    rw [hdrop]
    change (if (rest'.copy.isEmpty || rest'.copy.startsWith '/') = true then
      some (Path.clean rest'.copy) else none) = _
    rw [heq, if_pos ((hrest rest).mpr hbelow)]

/-- What is joined to the base path of an application lies below it, and is what the application
sees. -/
theorem routePath?_join (hbase : Path.Canonical app.basePath) (h : Path.Canonical target) :
    app.routePath? (Path.join app.basePath target) = some target := by
  by_cases hroot : app.basePath = "/"
  · rw [routePath?_of_root hroot, hroot, Path.join_root h, h.clean_eq]
  · let rest := (Path.elements target.toList).flatMap ('/' :: ·)
    have hpath : Path.join app.basePath target = app.basePath ++ String.ofList rest := by
      rw [← String.toList_inj, Path.join_eq_append hbase hroot h, String.toList_append,
        String.toList_ofList]
    have hrest : Path.IsRest (String.ofList rest) := by
      dsimp only [rest]
      cases Path.elements target.toList with
      | nil => exact .inl rfl
      | cons e es => exact .inr (by rw [String.toList_ofList]; rfl)
    have hclean : Path.clean (String.ofList rest) = target := by
      rw [Path.clean, String.toList_ofList,
        Path.elements_flatMap fun _ => Path.isElement_of_mem_elements]
      exact h.clean_eq
    exact (routePath?_eq_some_iff hroot).mpr ⟨_, hpath, hrest, hclean.symm⟩

end App

end Signpost
