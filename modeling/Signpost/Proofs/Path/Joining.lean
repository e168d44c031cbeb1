import Signpost.Proofs.Path.Canonical

/-!
# Joined paths

Cleaning is a projection onto the canonical paths, and a path may be cleaned before anything is
joined to it. So joining twice is joining once (`Path.join_join`). What is joined cannot be cleaned
first: it may lead above the base path. If it is canonical, it stands behind the base path as it is
(`Path.join_eq_append_of_ne`). All of this is `Path.clean_projects`.
-/

namespace Signpost.Path

theorem join_clean_left (base rest : String) : join (clean base) rest = join base rest := by
  refine (canonical_join _ _).eq_of_elements_eq (canonical_join _ _) ?_
  rw [elements_join_walk, elements_clean, ← elements_join_walk]

-- What is joined may lead above the base path, so it cannot be cleaned first.
example : join "/a" (clean "../b") = "/a/b" ∧ join "/a" "../b" = "/b" := by decide +kernel

theorem join_join (a b c : String) : join (join a b) c = join a (b ++ "/" ++ c) :=
  calc join (join a b) c
    _ = join (a ++ "/" ++ b) c := join_clean_left (a ++ "/" ++ b) c
    _ = join a (b ++ "/" ++ c) := by simp only [join, String.append_assoc]

theorem join_eq_append_of_ne {base rest : String} (hbase : Canonical base) (hrest : Canonical rest)
    (hbaseroot : base ≠ "/") (hrestroot : rest ≠ "/") : join base rest = base ++ rest := by
  rw [← String.toList_inj, join_eq_append hbase hbaseroot hrest,
    ← hrest.toList_eq_flatMap hrestroot, String.toList_append]

/-- Cleaning leads to a canonical path, leaves exactly these alone, and may come before anything is
joined. A canonical path that is joined to another one is found again behind it. -/
theorem clean_projects {ν : Type} :
    (∀ path, Canonical (clean path)) ∧
    (∀ path, clean path = path ↔ Canonical path) ∧
    (∀ a b, clean (a ++ "/" ++ b) = clean (clean a ++ "/" ++ b)) ∧
    (∀ a b c, join (join a b) c = join a (b ++ "/" ++ c)) ∧
    ∀ a b, Canonical a → Canonical b → b ≠ "/" →
      (a ≠ "/" → join a b = a ++ b ∧
        ∃ rest, (join a b).dropPrefix? a = some rest ∧ rest.copy = b) ∧
      (a = "/" → join a b = b) ∧
      ∀ app : App ν, app.basePath = a → app.routePath? (join a b) = some b := by
  refine ⟨canonical_clean, fun _ => canonical_iff.symm, fun a b => (join_clean_left a b).symm,
    join_join, fun a b ha hb hbroot => ⟨fun haroot => ?_, ?_, ?_⟩⟩
  · have happend := join_eq_append_of_ne ha hb haroot hbroot
    rw [happend]
    exact ⟨rfl, Text.exists_dropPrefix?_append a b⟩
  · rintro rfl
    exact join_root hb
  · rintro app rfl
    exact App.routePath?_join ha hb

theorem clean_projects_page :
    Canonical "/app" ∧ Canonical "/x/y" ∧ join "/app" "/x/y" = "/app/x/y" ∧
      join "/" "/x/y" = "/x/y" ∧
      (App.mountedAt "/app" : App Empty).routePath? (join "/app" "/x/y") = some "/x/y" := by
  have happ : Canonical "/app" := canonical_iff.mpr (by decide +kernel)
  have hroot : Canonical "/" := canonical_iff.mpr (by decide +kernel)
  have hpage : Canonical "/x/y" := canonical_iff.mpr (by decide +kernel)
  obtain ⟨-, -, -, -, hjoin⟩ := @clean_projects Empty
  obtain ⟨hbelow, -, hroute⟩ := hjoin "/app" "/x/y" happ hpage (by decide)
  obtain ⟨-, hself, -⟩ := hjoin "/" "/x/y" hroot hpage (by decide)
  exact ⟨happ, hpage, (hbelow (by decide)).1, hself rfl, hroute (App.mountedAt "/app") happ.clean_eq⟩

end Signpost.Path
