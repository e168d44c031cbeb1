import Mathlib.Data.List.DropRight
import Signpost.Text.Blank
import Signpost.Text.Split

/-!
# Characters and texts

Letters and digits by their ranges; splitting a text and putting it together again; trimming and
cutting texts that have no blank or no separator where it would count.
-/

namespace Signpost.Text

/-! ## Letters and digits -/

theorem isUpper_iff (c : Char) : c.isUpper = true ↔ 'A' ≤ c ∧ c ≤ 'Z' := decide_eq_true_iff

theorem isLower_iff (c : Char) : c.isLower = true ↔ 'a' ≤ c ∧ c ≤ 'z' := by
  change (decide ('a' ≤ c) && decide (c ≤ 'z')) = true ↔ _
  simp

theorem isDigit_iff (c : Char) : c.isDigit = true ↔ '0' ≤ c ∧ c ≤ '9' := by
  change (decide ('0' ≤ c) && decide (c ≤ '9')) = true ↔ _
  simp

theorem isAlpha_iff (c : Char) : c.isAlpha = true ↔ c.isUpper = true ∨ c.isLower = true :=
  Bool.or_eq_true_iff

theorem isAlphanum_iff (c : Char) : c.isAlphanum = true ↔ c.isAlpha = true ∨ c.isDigit = true :=
  Bool.or_eq_true_iff

theorem toNat_of_isAlphanum {c : Char} (h : c.isAlphanum = true) :
    48 ≤ c.toNat ∧ c.toNat ≤ 122 := by
  have hle : ∀ a b : Char, a ≤ b ↔ a.toNat ≤ b.toNat := fun _ _ => Iff.rfl
  simp only [isAlphanum_iff, isAlpha_iff, isUpper_iff, isLower_iff, isDigit_iff, hle,
    Char.reduceToNat] at h
  omega

/-! ## Splitting -/

variable {sep : Char}

theorem split_cons_self (s : List Char) : split sep (sep :: s) = [] :: split sep s := by
  rw [split, if_pos rfl]

theorem split_append (a b : List Char) :
    split sep (a ++ sep :: b) = split sep a ++ split sep b := by
  induction a with
  | nil => simp [split]
  | cons c a ih =>
    rw [List.cons_append, split, split]
    split
    · rw [ih, List.cons_append]
    · rw [ih]
      cases h : split sep a with
      | nil => exact absurd h (split_ne_nil sep a)
      | cons piece pieces => rfl

theorem split_of_not_mem {s : List Char} (h : sep ∉ s) : split sep s = [s] := by
  induction s with
  | nil => rfl
  | cons c s ih =>
    obtain ⟨hc, hs⟩ := not_or.mp (mt List.mem_cons.mpr h)
    rw [split, if_neg (Ne.symm hc), ih hs]

theorem not_mem_of_mem_split {s piece : List Char} (h : piece ∈ split sep s) : sep ∉ piece := by
  induction s generalizing piece with
  | nil =>
    obtain rfl := List.mem_singleton.mp h
    exact List.not_mem_nil
  | cons c s ih =>
    rw [split] at h
    split at h
    · obtain rfl | h := List.mem_cons.mp h
      · exact List.not_mem_nil
      · exact ih h
    · next hc =>
      cases hs : split sep s with
      | nil => exact absurd hs (split_ne_nil sep s)
      | cons first pieces =>
        rw [hs] at h ih
        obtain rfl | h := List.mem_cons.mp h
        · exact not_or.mpr ⟨Ne.symm hc, ih List.mem_cons_self⟩ ∘ List.mem_cons.mp
        · exact ih (List.mem_cons_of_mem _ h)

theorem exists_split_eq (sep : Char) (s : List Char) :
    ∃ piece pieces, split sep s = piece :: pieces :=
  List.exists_cons_of_ne_nil (split_ne_nil sep s)

theorem split_cons_of_ne {c : Char} {s piece : List Char} {pieces : List (List Char)}
    (hc : c ≠ sep) (h : split sep s = piece :: pieces) :
    split sep (c :: s) = (c :: piece) :: pieces := by
  rw [split, if_neg hc, h]

theorem split_append_of_not_mem {u s piece : List Char} {pieces : List (List Char)}
    (hu : sep ∉ u) (h : split sep s = piece :: pieces) :
    split sep (u ++ s) = (u ++ piece) :: pieces := by
  induction u with
  | nil => exact h
  | cons c u ih =>
    obtain ⟨hc, hrest⟩ := not_or.mp (mt List.mem_cons.mpr hu)
    exact split_cons_of_ne (Ne.symm hc) (ih hrest)

/-- What stands before a text can only join its first piece. -/
theorem tail_split_suffix (sep : Char) (u s : List Char) :
    (split sep s).tail <:+ (split sep (u ++ s)).tail := by
  induction u with
  | nil => exact List.suffix_refl _
  | cons c u ih =>
    rw [List.cons_append, split]
    split
    · exact ih.trans (List.tail_suffix _)
    · obtain ⟨piece, pieces, h⟩ := exists_split_eq sep (u ++ s)
      rw [h] at ih ⊢
      exact ih

theorem flatMap_split (s : List Char) : (split sep s).flatMap (sep :: ·) = sep :: s := by
  induction s with
  | nil => rfl
  | cons c s ih =>
    rw [split]
    split
    · next hc => rw [List.flatMap_cons, ih, hc, List.singleton_append]
    · cases h : split sep s with
      | nil => exact absurd h (split_ne_nil sep s)
      | cons piece pieces =>
        rw [h, List.flatMap_cons, List.cons_append] at ih
        rw [List.flatMap_cons, List.cons_append, List.cons_append, (List.cons.inj ih).2]

theorem eq_append_of_split {s piece : List Char} {pieces : List (List Char)}
    (h : split sep s = piece :: pieces) : s = piece ++ pieces.flatMap (sep :: ·) := by
  have hflat : (split sep s).flatMap (sep :: ·) = sep :: s := flatMap_split s
  rw [h, List.flatMap_cons, List.cons_append] at hflat
  exact (List.cons.inj hflat).2.symm

theorem eq_or_mem_piece (sep : Char) {s : List Char} {c : Char} (h : c ∈ s) :
    c = sep ∨ ∃ piece ∈ split sep s, c ∈ piece := by
  have hmem : c ∈ (split sep s).flatMap (sep :: ·) :=
    (flatMap_split s).symm ▸ List.mem_cons_of_mem sep h
  obtain ⟨piece, hpiece, hc⟩ := List.mem_flatMap.mp hmem
  exact (List.mem_cons.mp hc).imp_right fun hc => ⟨piece, hpiece, hc⟩

theorem split_eq_splitOn (s : List Char) : split sep s = s.splitOn sep := by
  induction s with
  | nil => rfl
  | cons c s ih =>
    have hcons : (c :: s).splitOn sep =
        if c == sep then [] :: s.splitOn sep else (s.splitOn sep).modifyHead (c :: ·) :=
      List.splitOnP_cons_eq_if_modifyHead c s
    rw [split, hcons, ← ih]
    obtain ⟨piece, pieces, hpieces⟩ := exists_split_eq sep s
    by_cases hc : c = sep <;> simp [hc, hpieces]

/-- Pieces without the separator are the pieces of the text that they make up. -/
theorem split_intercalate {pieces : List (List Char)} (hne : pieces ≠ [])
    (h : ∀ piece ∈ pieces, sep ∉ piece) : split sep ([sep].intercalate pieces) = pieces := by
  rw [split_eq_splitOn, List.splitOn_intercalate sep h hne]

/-- Where two texts meet, the last piece of the one and the first of the other make one piece. -/
theorem split_append_of_eq {a b last first : List Char} {before after : List (List Char)}
    (ha : split sep a = before ++ [last]) (hb : split sep b = first :: after) :
    split sep (a ++ b) = before ++ (last ++ first) :: after := by
  induction a generalizing before last with
  | nil =>
    cases before with
    | nil =>
      obtain rfl := List.singleton_inj.mp ha
      exact hb
    | cons piece before => simp [split] at ha
  | cons c a ih =>
    obtain ⟨piece, pieces, hpieces⟩ := exists_split_eq sep a
    by_cases hc : c = sep
    · subst hc
      rw [split_cons_self] at ha
      cases before with
      | nil => exact absurd (List.cons.inj ha).2 (split_ne_nil c a)
      | cons _ before =>
        obtain ⟨rfl, hrest⟩ := List.cons.inj ha
        rw [List.cons_append, split_cons_self, ih hrest, List.cons_append]
    · rw [split_cons_of_ne hc hpieces] at ha
      cases before with
      | nil =>
        obtain ⟨rfl, rfl⟩ := List.cons.inj ha
        have ha : split sep a = [] ++ [piece] := hpieces
        exact split_cons_of_ne hc (ih ha)
      | cons _ before =>
        obtain ⟨rfl, rfl⟩ := List.cons.inj ha
        have ha : split sep a = (piece :: before) ++ [last] := hpieces
        exact split_cons_of_ne hc (ih ha)

theorem exists_dropPrefix?_append (before rest : String) :
    ∃ s, (before ++ rest).dropPrefix? before = some s ∧ s.copy = rest := by
  cases hdrop : (before ++ rest).dropPrefix? before with
  | none =>
    have hstarts : (before ++ rest).startsWith before = true := by
      rw [String.startsWith_string_iff, String.toList_append]
      exact List.prefix_append _ _
    rw [String.dropPrefix?_eq_dropPrefix?_toSlice, String.Slice.dropPrefix?_eq_none_iff,
      String.startsWith_toSlice, hstarts] at hdrop
    cases hdrop
  | some s =>
    have happend := congrArg String.toList (String.eq_append_of_dropPrefix?_string_eq_some hdrop)
    rw [String.toList_append, String.toList_append] at happend
    exact ⟨s, rfl, String.toList_inj.mp (List.append_cancel_left happend).symm⟩

/-! ## Trimming and cutting -/

theorem trim_eq_self {s : List Char} (hhead : ∀ c, s.head? = some c → isBlank c = false)
    (hlast : ∀ c, s.getLast? = some c → isBlank c = false) : trim s = s := by
  have hdrop : ∀ {s : List Char}, (∀ c, s.head? = some c → isBlank c = false) →
      s.dropWhile isBlank = s := by
    rintro (_ | ⟨c, s⟩) h
    · rfl
    · exact List.dropWhile_cons_of_neg (by simp [h c rfl])
  rw [trim, trimStart, hdrop hhead, trimEnd, hdrop, List.reverse_reverse]
  simpa only [List.head?_reverse] using hlast

theorem trim_of_forall {s : List Char} (h : ∀ c ∈ s, isBlank c = false) : trim s = s :=
  trim_eq_self (fun c hc => h c (List.mem_of_head? hc)) (fun c hc => h c (List.mem_of_getLast? hc))

theorem trimEnd_eq (s : List Char) : trimEnd s = s.rdropWhile isBlank := rfl

/-- Blanks at the end stand behind the last character that is none. -/
theorem trimEnd_append (a : List Char) {s : List Char} (h : ∃ c ∈ s, isBlank c = false) :
    trimEnd (a ++ s) = a ++ trimEnd s := by
  obtain ⟨c, hc, hblank⟩ := h
  induction s using List.reverseRecOn with
  | nil => cases hc
  | append_singleton s d ih =>
    rw [← List.append_assoc, trimEnd_eq, trimEnd_eq, List.rdropWhile_concat, List.rdropWhile_concat]
    split
    · next hd =>
      have hne : c ≠ d := by
        rintro rfl
        rw [hblank] at hd
        cases hd
      exact ih (by simpa [hne] using hc)
    · exact List.append_assoc a s [d]

/-- A text that does not begin with a blank is trimmed at its end only. -/
theorem trim_eq_trimEnd {s : List Char} (h : ∀ c, s.head? = some c → isBlank c = false) :
    trim s = trimEnd s := by
  cases s with
  | nil => rfl
  | cons c s => rw [trim, trimStart, List.dropWhile_cons_of_neg (by simp [h c rfl])]

theorem head?_trimEnd {s : List Char} {c : Char} (h : s.head? = some c) (hc : isBlank c = false) :
    (trimEnd s).head? = some c := by
  obtain ⟨rest, hrest⟩ : trimEnd s <+: s := List.rdropWhile_prefix isBlank s
  cases htrim : trimEnd s with
  | nil =>
    have hall := List.rdropWhile_eq_nil_iff.mp htrim c (List.mem_of_head? h)
    exact absurd (hall.symm.trans hc) (by decide)
  | cons d t =>
    rw [← hrest, htrim] at h
    exact h

theorem trim_trimEnd {s : List Char} (h : ∀ c, s.head? = some c → isBlank c = false) :
    trim (trimEnd s) = trimEnd s := by
  rw [trim_eq_trimEnd, trimEnd_eq, trimEnd_eq, List.rdropWhile_idempotent]
  intro c hc
  obtain ⟨rest, hrest⟩ : trimEnd s <+: s := List.rdropWhile_prefix isBlank s
  refine h c ?_
  rw [← hrest, List.head?_append, hc, Option.some_or]

theorem cut?_of_not_mem {sep : Char} {s : List Char} (h : sep ∉ s) : cut? sep s = none := by
  induction s with
  | nil => rfl
  | cons c s ih =>
    obtain ⟨hc, hs⟩ := not_or.mp (mt List.mem_cons.mpr h)
    rw [cut?, if_neg (Ne.symm hc), ih hs]
    rfl

theorem cut?_append {sep : Char} {before : List Char} (h : sep ∉ before) (after : List Char) :
    cut? sep (before ++ sep :: after) = some (before, after) := by
  induction before with
  | nil => simp [cut?]
  | cons c before ih =>
    obtain ⟨hc, hbefore⟩ := not_or.mp (mt List.mem_cons.mpr h)
    rw [List.cons_append, cut?, if_neg (Ne.symm hc), ih hbefore]
    rfl

theorem not_mem_of_cut? {sep : Char} {s before after : List Char}
    (h : cut? sep s = some (before, after)) : sep ∉ before := by
  induction s generalizing before with
  | nil => cases h
  | cons c s ih =>
    rw [cut?] at h
    split at h
    · cases h
      exact List.not_mem_nil
    · next hc =>
      obtain ⟨⟨b, a⟩, hcut, heq⟩ := Option.map_eq_some_iff.mp h
      cases heq
      exact List.not_mem_cons_of_ne_of_not_mem (Ne.symm hc) (ih hcut)

theorem takeWhile_eq_of_cut? {sep : Char} {s before after : List Char}
    (h : cut? sep s = some (before, after)) : s.takeWhile (· != sep) = before := by
  have hsep : ∀ c ∈ before, (c != sep) = true := fun c hc =>
    bne_iff_ne.mpr (ne_of_mem_of_not_mem hc (not_mem_of_cut? h))
  rw [eq_of_cut? h, List.takeWhile_append_of_pos hsep, List.takeWhile_cons_of_neg (by simp),
    List.append_nil]

theorem cut?_eq_none_iff {sep : Char} {s : List Char} : cut? sep s = none ↔ sep ∉ s := by
  refine ⟨fun h hmem => ?_, cut?_of_not_mem⟩
  obtain ⟨before, after, rfl, hbefore⟩ := List.eq_append_cons_of_mem hmem
  rw [cut?_append hbefore] at h
  cases h

end Signpost.Text
