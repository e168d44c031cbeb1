import Signpost.Proofs.Path.Spelling

/-!
# Paths with a query

A location may have a query behind its path. Only the path of it should be cleaned (`Path.resolve`).
If all of it is cleaned, slashes and dots in the query count as well. The query survives this
exactly if there is nothing to clean behind the `?` and nothing just before it
(`Path.join_eq_resolve_iff`).
-/

namespace Signpost.Path

/-- Where a location leads to below a base path if only its path is cleaned, not its query. -/
def resolve (base location : String) : String :=
  match Text.cut? '?' location.toList with
  | none => join base location
  | some (path, query) => join base (String.ofList path) ++ "?" ++ String.ofList query

/-- What stands behind the last slash. -/
def lastPiece (path : List Char) : List Char :=
  (Text.split '/' path).getLast (Text.split_ne_nil '/' path)

/-- Cleaning all of a location leaves its query alone: what stands between slashes in the query, or
behind the last of them, is an element. So is the last piece of the path, to which the query belongs
up to its first slash; it may only be missing if the path leads to the root. -/
def QueryKept (base location : String) : Prop :=
  ∀ parts ∈ Text.cut? '?' location.toList,
    (∀ piece ∈ (Text.split '/' parts.2).tail, IsElement piece) ∧
      (IsElement (lastPiece parts.1) ∨
        lastPiece parts.1 = [] ∧ join base (String.ofList parts.1) = "/")

instance (base location : String) : Decidable (QueryKept base location) :=
  inferInstanceAs (Decidable (∀ parts ∈ Text.cut? '?' location.toList,
    (∀ piece ∈ (Text.split '/' parts.2).tail, IsElement piece) ∧
      (IsElement (lastPiece parts.1) ∨
        lastPiece parts.1 = [] ∧ join base (String.ofList parts.1) = "/")))

theorem split_eq_append_lastPiece (path : List Char) :
    Text.split '/' path = (Text.split '/' path).dropLast ++ [lastPiece path] :=
  (List.dropLast_append_getLast _).symm

theorem split_ofElements {es : List (List Char)} (h : ∀ e ∈ es, IsElement e) :
    Text.split '/' (ofElements es) = ([] :: es.dropLast) ++ [es.getLast?.getD []] := by
  cases es with
  | nil => rfl
  | cons e es =>
    have hne : e :: es ≠ [] := List.cons_ne_nil e es
    rw [ofElements_eq_flatMap hne, split_flatMap h, List.getLast?_eq_some_getLast hne,
      Option.getD_some, List.cons_append, List.dropLast_append_getLast]

theorem elements_join_split (base rest : String) :
    elements (join base rest).toList =
      walk [] (Text.split '/' base.toList ++ Text.split '/' rest.toList) := by
  rw [elements_join_walk, walk_append]
  rfl

/-- The elements of a joined path before its last piece is walked over. -/
def above (base path : List Char) : List (List Char) :=
  walk [] (Text.split '/' base ++ (Text.split '/' path).dropLast)

theorem isElement_of_mem_above (base path : List Char) : ∀ e ∈ above base path, IsElement e := by
  refine isElement_of_mem_walk (fun piece hpiece => ?_) [] (by simp)
  rcases List.mem_append.mp hpiece with hbase | hdrop
  · exact Text.not_mem_of_mem_split hbase
  · exact Text.not_mem_of_mem_split (List.dropLast_subset _ hdrop)

theorem elements_join_path (base : String) (path : List Char) :
    elements (join base (String.ofList path)).toList =
      walk (above base.toList path).reverse [lastPiece path] := by
  rw [elements_join_split, String.toList_ofList, split_eq_append_lastPiece path,
    ← List.append_assoc, walk_append, above]

/-- Up to its first slash a query belongs to the last piece of the path. -/
theorem elements_join_query (base : String) (path : List Char) {query first : List Char}
    {after : List (List Char)} (h : Text.split '/' query = first :: after) :
    elements (join base (String.ofList (path ++ '?' :: query))).toList =
      walk ((lastPiece path ++ '?' :: first) :: (above base.toList path).reverse) after := by
  have hquery : Text.split '/' ('?' :: query) = ('?' :: first) :: after :=
    Text.split_cons_of_ne (by decide) h
  have hslash : '/' ∉ lastPiece path ++ '?' :: first := by
    have hlast : '/' ∉ lastPiece path := Text.not_mem_of_mem_split (List.getLast_mem _)
    have hfirst : '/' ∉ first := Text.not_mem_of_mem_split (h ▸ List.mem_cons_self)
    simp [hlast, hfirst]
  have hmark : '?' ∈ lastPiece path ++ '?' :: first := by simp
  rw [elements_join_split, String.toList_ofList,
    Text.split_append_of_eq (split_eq_append_lastPiece path) hquery, ← List.append_assoc,
    walk_append, walk_cons_of_isElement _ _ (isElement_of_mem hmark (by decide) hslash), above]

/-- The last piece of a path is also the last element of the cleaned path, unless it is cleaned
away. -/
theorem lastPiece_kept_iff {es cleaned : List (List Char)} {last : List Char}
    (hes : ∀ e ∈ es, IsElement e) (hlast : '/' ∉ last) (h : walk es.reverse [last] = cleaned) :
    es = cleaned.dropLast ∧ last = cleaned.getLast?.getD [] ↔
      IsElement last ∨ last = [] ∧ cleaned = [] := by
  have hcleaned : ∀ e ∈ cleaned, IsElement e :=
    h ▸ isElement_of_mem_walk (by simpa using hlast) _ fun e he => hes e (List.mem_reverse.mp he)
  constructor
  · rintro ⟨-, heq⟩
    cases hget : cleaned.getLast? with
    | none => exact .inr ⟨by rw [heq, hget]; rfl, List.getLast?_eq_none_iff.mp hget⟩
    | some e =>
      rw [heq, hget]
      exact .inl (hcleaned e (List.mem_of_getLast? hget))
  · rintro (helement | ⟨rfl, hnil⟩)
    · rw [walk_of_isElement (by simpa using helement), List.reverse_reverse] at h
      rw [← h, List.dropLast_concat, List.getLast?_concat]
      exact ⟨rfl, rfl⟩
    · rw [walk_nil_cons, walk, List.reverse_reverse] at h
      rw [h, hnil]
      exact ⟨rfl, rfl⟩

/-- A query behind a text of elements belongs, up to its first slash, to the last of them. -/
theorem ofElements_eq_append_iff {es es' : List (List Char)} (hes : ∀ e ∈ es, IsElement e)
    (hes' : ∀ e ∈ es', IsElement e) {query first : List Char} {after : List (List Char)}
    (h : Text.split '/' query = first :: after) :
    ofElements es = ofElements es' ++ '?' :: query ↔
      es = es'.dropLast ++ (es'.getLast?.getD [] ++ '?' :: first) :: after := by
  let pieces := es'.dropLast ++ (es'.getLast?.getD [] ++ '?' :: first) :: after
  have hsplit : Text.split '/' (ofElements es' ++ '?' :: query) = [] :: pieces :=
    Text.split_append_of_eq (split_ofElements hes') (Text.split_cons_of_ne (by decide) h)
  constructor
  · intro heq
    have hne : es ≠ [] := by
      rintro rfl
      have hmark : '?' ∈ ofElements [] := heq ▸ List.mem_append_right _ List.mem_cons_self
      exact absurd hmark (by decide)
    rw [← heq, ofElements_eq_flatMap hne, split_flatMap hes] at hsplit
    exact (List.cons.inj hsplit).2
  · intro heq
    have hne : pieces ≠ [] := List.append_ne_nil_of_right_ne_nil _ (List.cons_ne_nil _ _)
    rw [Text.eq_append_of_split hsplit, heq, ofElements_eq_flatMap hne, List.nil_append]

/-- A walk keeps everything exactly if that consists of elements. -/
theorem walk_cons_eq_append_iff {es es' after : List (List Char)} {piece piece' : List Char}
    (h : ∀ e ∈ walk (piece :: es.reverse) after, IsElement e) :
    walk (piece :: es.reverse) after = es' ++ piece' :: after ↔
      (∀ e ∈ after, IsElement e) ∧ es = es' ∧ piece = piece' := by
  have hkeeps (hafter : ∀ e ∈ after, IsElement e) :
      walk (piece :: es.reverse) after = es ++ piece :: after := by
    rw [walk_of_isElement hafter, List.reverse_cons, List.reverse_reverse, List.append_assoc,
      List.singleton_append]
  constructor
  · intro heq
    have hafter : ∀ e ∈ after, IsElement e := fun e he =>
      h e (heq ▸ List.mem_append_right _ (List.mem_cons_of_mem _ he))
    obtain ⟨hes, hrest⟩ := List.append_inj' ((hkeeps hafter).symm.trans heq) rfl
    exact ⟨hafter, hes, (List.cons.inj hrest).1⟩
  · rintro ⟨hafter, rfl, rfl⟩
    exact hkeeps hafter

theorem elements_eq_nil_iff {path : String} (h : Canonical path) :
    elements path.toList = [] ↔ path = "/" := by
  refine ⟨not_imp_not.mp (elements_ne_nil h), ?_⟩
  rintro rfl
  decide

/-- When a path with a query, cleaned as a whole, is the cleaned path with the same query. -/
theorem join_query_eq_iff (base : String) (path query : List Char) :
    join base (String.ofList (path ++ '?' :: query)) =
        join base (String.ofList path) ++ "?" ++ String.ofList query ↔
      (∀ piece ∈ (Text.split '/' query).tail, IsElement piece) ∧
        (IsElement (lastPiece path) ∨
          lastPiece path = [] ∧ join base (String.ofList path) = "/") := by
  obtain ⟨first, after, hsplit⟩ := Text.exists_split_eq '/' query
  have hpath := canonical_join base (String.ofList path)
  have hlocation := canonical_join base (String.ofList (path ++ '?' :: query))
  have hes : ∀ e ∈ elements (join base (String.ofList path)).toList, IsElement e :=
    fun _ => isElement_of_mem_elements
  have hes' : ∀ e ∈ elements (join base (String.ofList (path ++ '?' :: query))).toList,
      IsElement e := fun _ => isElement_of_mem_elements
  have hlast : '/' ∉ lastPiece path := Text.not_mem_of_mem_split (List.getLast_mem _)
  have hkept := lastPiece_kept_iff (isElement_of_mem_above base.toList path) hlast
    (elements_join_path base path).symm
  rw [← elements_eq_nil_iff hpath, ← hkept, hsplit, List.tail_cons, ← String.toList_inj,
    hlocation.toList_eq, String.toList_append, String.toList_append, hpath.toList_eq,
    elements_ofElements hes, String.toList_ofList, String.toList_ofList, List.append_assoc,
    List.singleton_append, ofElements_eq_append_iff hes' hes hsplit]
  rw [elements_join_query base path hsplit] at hes' ⊢
  rw [walk_cons_eq_append_iff hes', List.append_left_inj]

theorem join_eq_resolve_iff (base location : String) :
    join base location = resolve base location ↔ QueryKept base location := by
  unfold resolve QueryKept
  cases hcut : Text.cut? '?' location.toList with
  | none => simp
  | some parts =>
    obtain ⟨path, query⟩ := parts
    have hlocation : location = String.ofList (path ++ '?' :: query) := by
      rw [← Text.eq_of_cut? hcut, String.ofList_toList]
    conv_lhs => rw [hlocation]
    rw [join_query_eq_iff]
    simp

theorem join_join_of_stays (base : String) {path : String}
    (h : Stays 0 (Text.split '/' path.toList)) : join base (join "/" path) = join base path := by
  have hcanonical := canonical_join "/" path
  have hroot : elements (join "/" path).toList = walk [] (Text.split '/' path.toList) :=
    elements_join_walk "/" path
  have hwalk := walk_append_of_stays (elements base.toList).reverse [] h
  refine (canonical_join base _).eq_of_elements_eq (canonical_join base path) ?_
  rw [elements_join_eq base hcanonical, hroot, elements_join_walk]
  rw [List.nil_append, List.reverse_reverse] at hwalk
  exact hwalk.symm

end Signpost.Path
