/-!
# Splitting texts

A text is split at every occurrence of a separator, so that the pieces and the separators between
them make up the text again.
-/

namespace Signpost.Text

/-- The pieces between the separators; there is always one more piece than separators. -/
def split (sep : Char) : List Char → List (List Char)
  | [] => [[]]
  | c :: rest =>
    if c = sep then [] :: split sep rest
    else match split sep rest with
      | [] => [[c]]
      | piece :: pieces => (c :: piece) :: pieces

theorem split_ne_nil (sep : Char) (s : List Char) : split sep s ≠ [] := by
  cases s with
  | nil => simp [split]
  | cons c rest =>
    rw [split]
    split
    · simp
    · split <;> simp

/-- The text before the first separator and the text after it, if there is one. -/
def cut? (sep : Char) : List Char → Option (List Char × List Char)
  | [] => none
  | c :: rest =>
    if c = sep then some ([], rest)
    else (cut? sep rest).map fun (before, after) => (c :: before, after)

theorem eq_of_cut? {sep : Char} {s before after : List Char}
    (h : cut? sep s = some (before, after)) : s = before ++ sep :: after := by
  induction s generalizing before with
  | nil => simp [cut?] at h
  | cons c rest ih =>
    rw [cut?] at h
    split at h
    · next hc =>
      cases h
      rw [hc]
      rfl
    · obtain ⟨⟨b, a⟩, hcut, heq⟩ := Option.map_eq_some_iff.mp h
      cases heq
      rw [ih hcut]
      rfl

theorem length_of_cut? {sep : Char} {s before after : List Char}
    (h : cut? sep s = some (before, after)) : before.length + after.length + 1 = s.length := by
  rw [eq_of_cut? h, List.length_append, List.length_cons]
  omega

end Signpost.Text
