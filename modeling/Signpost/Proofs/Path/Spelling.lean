import Signpost.Proofs.Path.Canonical

/-!
# Spellings of paths

A path can be spelled in many ways; cleaning brings all of them into one canonical form. An
application takes its base path off a spelling before it cleans what is left. So it sees the
canonical path that is meant only if the spelling is direct (`App.Direct`): the base path stands at
its start, and what is behind does not lead above it (`Path.Stays`); or the canonical path does not
lie below the base path at all. Requests for direct spellings of one path are answered alike
(`App.serve_of_direct`). A spelling that leads out of the base path is answered as if it lay below
it (`App.routePath?_not_alike`).
-/

namespace Signpost

open Http (Request Response)

namespace Path

/-! ## Walks that stay below their start -/

/-- The pieces never lead above the place that is `depth` elements above the start of the walk. -/
def Stays : (depth : Nat) → List (List Char) → Prop
  | _, [] => True
  | depth, piece :: rest =>
    if piece = [] ∨ piece = ['.'] then Stays depth rest
    else if piece = ['.', '.'] then 0 < depth ∧ Stays (depth - 1) rest
    else Stays (depth + 1) rest

instance decidableStays : ∀ depth pieces, Decidable (Stays depth pieces)
  | _, [] => .isTrue trivial
  | depth, piece :: rest =>
    have := fun depth => decidableStays depth rest
    inferInstanceAs (Decidable (if piece = [] ∨ piece = ['.'] then Stays depth rest
      else if piece = ['.', '.'] then 0 < depth ∧ Stays (depth - 1) rest
      else Stays (depth + 1) rest))

theorem stays_of_isElement {es : List (List Char)} (h : ∀ e ∈ es, IsElement e) : ∀ depth,
    Stays depth es := by
  induction es with
  | nil => exact fun _ => trivial
  | cons e es ih =>
    intro depth
    obtain ⟨⟨hne, hdot, hup, -⟩, hrest⟩ := List.forall_mem_cons.mp h
    rw [Stays, if_neg (not_or.mpr ⟨hne, hdot⟩), if_neg hup]
    exact ih hrest _

theorem stays_split_flatMap {es : List (List Char)} (h : ∀ e ∈ es, IsElement e) :
    Stays 0 (Text.split '/' (es.flatMap ('/' :: ·))) := by
  rw [split_flatMap h, Stays, if_pos (.inl rfl)]
  exact stays_of_isElement h 0

/-- A walk that stays leaves what was walked before it alone. -/
theorem walk_append_of_stays (before : List (List Char)) {pieces : List (List Char)} :
    ∀ walked, Stays walked.length pieces →
      walk (walked ++ before) pieces = before.reverse ++ walk walked pieces := by
  induction pieces with
  | nil => exact fun walked _ => List.reverse_append
  | cons piece pieces ih =>
    intro walked h
    rw [Stays] at h
    rw [walk, walk]
    split at h
    · next hskip => rw [if_pos hskip, if_pos hskip, ih walked h]
    · next hkept =>
      rw [if_neg hkept, if_neg hkept]
      split at h
      · next hup =>
        obtain ⟨hpos, hstays⟩ := h
        rw [if_pos hup, if_pos hup]
        cases walked with
        | nil => exact absurd hpos (Nat.lt_irrefl 0)
        | cons e walked => exact ih walked hstays
      · next hup =>
        rw [if_neg hup, if_neg hup]
        exact ih (piece :: walked) h

/-- A walk that leads further up takes away what was walked just before it. -/
theorem walk_append_of_not_stays (e : List Char) {pieces : List (List Char)} :
    ∀ walked, ¬Stays walked.length pieces → walk (walked ++ [e]) pieces = walk walked pieces := by
  induction pieces with
  | nil => exact fun walked h => absurd trivial h
  | cons piece pieces ih =>
    intro walked h
    rw [Stays] at h
    rw [walk, walk]
    split at h
    · next hskip => rw [if_pos hskip, if_pos hskip, ih walked h]
    · next hkept =>
      rw [if_neg hkept, if_neg hkept]
      split at h
      · next hup =>
        rw [if_pos hup, if_pos hup]
        cases walked with
        | nil => rfl
        | cons e' walked => exact ih walked fun hstays => h ⟨Nat.succ_pos _, hstays⟩
      · next hup =>
        rw [if_neg hup, if_neg hup]
        exact ih (piece :: walked) h

theorem Stays.mono {pieces : List (List Char)} : ∀ {depth depth' : Nat}, Stays depth pieces →
    depth ≤ depth' → Stays depth' pieces := by
  induction pieces with
  | nil => exact fun _ _ => trivial
  | cons piece pieces ih =>
    intro depth depth' h hle
    rw [Stays] at h ⊢
    split at h
    · next hskip =>
      rw [if_pos hskip]
      exact ih h hle
    · next hkept =>
      rw [if_neg hkept]
      split at h
      · next hup =>
        rw [if_pos hup]
        exact ⟨Nat.lt_of_lt_of_le h.1 hle, ih h.2 (Nat.sub_le_sub_right hle 1)⟩
      · next hup =>
        rw [if_neg hup]
        exact ih h (Nat.succ_le_succ hle)

theorem Stays.append {es pieces : List (List Char)} (hes : ∀ e ∈ es, IsElement e) :
    ∀ {depth : Nat}, Stays depth pieces → Stays depth (es ++ pieces) := by
  induction es with
  | nil => exact fun h => h
  | cons e es ih =>
    intro depth h
    obtain ⟨⟨hne, hdot, hup, -⟩, hrest⟩ := List.forall_mem_cons.mp hes
    rw [List.cons_append, Stays, if_neg (not_or.mpr ⟨hne, hdot⟩), if_neg hup]
    exact ih hrest (h.mono (Nat.le_succ depth))

/-- Elements before a walk that stays are kept. -/
theorem walk_append_of_isElement {es pieces : List (List Char)} (hes : ∀ e ∈ es, IsElement e)
    (h : Stays 0 pieces) : walk [] (es ++ pieces) = es ++ walk [] pieces := by
  have hwalk := walk_append_of_stays es.reverse [] h
  rw [walk_append, walk_of_isElement hes]
  simpa using hwalk

/-- At the root, the first piece of a walk is kept as it is or leaves nothing behind. -/
theorem walk_cons_eq_or (piece : List Char) (pieces : List (List Char)) :
    walk [] (piece :: pieces) = walk [] pieces ∨
      walk [] (piece :: pieces) = piece :: walk [] pieces := by
  rw [walk]
  split
  · exact .inl rfl
  · split
    · exact .inl rfl
    · by_cases hstays : Stays 0 pieces
      · exact .inr (walk_append_of_stays [piece] [] hstays)
      · exact .inl (walk_append_of_not_stays piece [] hstays)

/-! ## What stands behind a base path -/

theorem elements_append_of_stays (base : String) {rest : String} (hrest : IsRest rest)
    (h : Stays 0 (Text.split '/' rest.toList)) :
    elements (base ++ rest).toList = elements base.toList ++ elements rest.toList := by
  rw [String.toList_append]
  obtain rfl | hslash := hrest
  · have hnil : elements ("" : String).toList = [] := by decide
    rw [hnil, String.toList_empty, List.append_nil, List.append_nil]
  · obtain ⟨t, ht⟩ := List.head?_eq_some_iff.mp hslash
    rw [ht] at h ⊢
    have hstays : Stays 0 (Text.split '/' t) := by
      rwa [Text.split_cons_self, Stays, if_pos (.inl rfl)] at h
    have hwalk := walk_append_of_stays (elements base.toList).reverse [] hstays
    rw [List.nil_append, List.reverse_reverse] at hwalk
    rw [elements_cons_slash, elements, Text.split_append, walk_append]
    exact hwalk

/-- Which canonical path is meant is told by the elements. -/
theorem join_eq_clean_iff {base path target : String} (htarget : Canonical target) :
    join base target = clean path ↔
      elements base.toList ++ elements target.toList = elements path.toList := by
  rw [← elements_join_eq base htarget, ← elements_clean path]
  exact ⟨fun h => h ▸ rfl, (canonical_join base target).eq_of_elements_eq (canonical_clean path)⟩

end Path

/-! ## What applications see -/

namespace App

variable {ν : Type} {app : App ν} {path target : String}

/-- The spelling shows where it leads to: either the base path stands at its start and what is
behind does not lead above it, or the path lies outside and does not begin with the base path
either. -/
inductive Direct (app : App ν) (path : String) : Prop
  | root (h : app.basePath = "/")
  | below (rest : String) (hpath : path = app.basePath ++ rest) (hrest : Path.IsRest rest)
      (hstays : Path.Stays 0 (Text.split '/' rest.toList))
  | outside (hpath : ∀ rest, Path.IsRest rest → path ≠ app.basePath ++ rest)
      (houtside : ¬Path.elements app.basePath.toList <+: Path.elements path.toList)

/-- Of a direct spelling an application sees the path that is meant, as seen from the base path. -/
theorem Direct.routePath?_eq_some_iff (h : app.Direct path) : app.routePath? path = some target ↔
    Path.Canonical target ∧ Path.join app.basePath target = Path.clean path := by
  by_cases hroot : app.basePath = "/"
  · rw [routePath?_of_root hroot, hroot, Option.some_inj]
    constructor
    · rintro rfl
      exact ⟨Path.canonical_clean path, Path.join_root (Path.canonical_clean path)⟩
    · rintro ⟨htarget, hjoin⟩
      rw [← hjoin, Path.join_root htarget]
  · rw [App.routePath?_eq_some_iff hroot]
    cases h with
    | root h => exact absurd h hroot
    | below rest hpath hrest hstays =>
      have helements := Path.elements_append_of_stays app.basePath hrest hstays
      rw [← hpath] at helements
      constructor
      · rintro ⟨rest', hpath', -, rfl⟩
        have hcanonical := Path.canonical_clean rest'
        have heq := congrArg String.toList (hpath.symm.trans hpath')
        rw [String.toList_append, String.toList_append] at heq
        obtain rfl := String.toList_inj.mp (List.append_cancel_left heq)
        rw [Path.join_eq_clean_iff hcanonical, Path.elements_clean]
        exact ⟨hcanonical, helements.symm⟩
      · rintro ⟨htarget, hjoin⟩
        rw [Path.join_eq_clean_iff htarget, helements] at hjoin
        refine ⟨rest, hpath, hrest, htarget.eq_of_elements_eq (Path.canonical_clean rest) ?_⟩
        rw [Path.elements_clean]
        exact List.append_cancel_left hjoin
    | outside hpath houtside =>
      constructor
      · rintro ⟨rest, heq, hrest, -⟩
        exact absurd heq (hpath rest hrest)
      · rintro ⟨htarget, hjoin⟩
        rw [Path.join_eq_clean_iff htarget] at hjoin
        exact absurd ⟨_, hjoin⟩ houtside

theorem Direct.routePath?_eq {path' : String} (h : app.Direct path) (h' : app.Direct path')
    (hclean : Path.clean path = Path.clean path') : app.routePath? path = app.routePath? path' := by
  refine Option.ext fun target => ?_
  rw [h.routePath?_eq_some_iff, h'.routePath?_eq_some_iff, hclean]

/-- A canonical path is a direct spelling of itself. -/
theorem direct_of_canonical (hbase : Path.Canonical app.basePath) (h : Path.Canonical path) :
    app.Direct path := by
  by_cases hroot : app.basePath = "/"
  · exact .root hroot
  by_cases hbelow : Path.elements app.basePath.toList <+: Path.elements path.toList
  · obtain ⟨es, hes⟩ := hbelow
    have hall : ∀ e ∈ es, Path.IsElement e := fun e he =>
      Path.isElement_of_mem_elements (hes ▸ List.mem_append_right _ he)
    have hpath : path.toList = app.basePath.toList ++ es.flatMap ('/' :: ·) := by
      rw [h.toList_eq, ← hes, Path.ofElements_eq_flatMap, List.flatMap_append,
        ← hbase.toList_eq_flatMap hroot]
      exact List.append_ne_nil_of_left_ne_nil (Path.elements_ne_nil hbase hroot) es
    refine .below (String.ofList (es.flatMap ('/' :: ·))) ?_ ?_ ?_
    · rw [← String.toList_inj, String.toList_append, String.toList_ofList, hpath]
    · cases es with
      | nil => exact .inl rfl
      | cons e es => exact .inr (by rw [String.toList_ofList]; rfl)
    · rw [String.toList_ofList]
      exact Path.stays_split_flatMap hall
  · refine .outside (fun rest hrest heq => hbelow ?_) hbelow
    have hstays : Path.Stays 0 (Text.split '/' rest.toList) := by
      obtain rfl | hslash := hrest
      · have hnone : ∀ e ∈ ([] : List (List Char)), Path.IsElement e := nofun
        exact Path.stays_split_flatMap hnone
      · obtain ⟨t, ht⟩ := List.head?_eq_some_iff.mp hslash
        have htext : path.toList = app.basePath.toList ++ '/' :: t := by
          rw [heq, String.toList_append, ht]
        obtain ⟨es, -, hes, htail⟩ := Path.exists_elements_of_append h htext hbase.toList_ne_nil
        rw [ht, htail]
        exact Path.stays_split_flatMap hes
    rw [heq, Path.elements_append_of_stays _ hrest hstays]
    exact List.prefix_append _ _

/-- The answer to a request whose path the application sees as `target?`. -/
def serveAt (app : App ν) (w : World ν) (request : Request) (target? : Option String) :
    Response × World ν :=
  let context := app.context request
  let host := (app.site w).host context
  let start : State ν := { context, world := w }
  let final :=
    match target? with
    | none => host.report .notFound .notFound start
    | some target => host.settle (w.published.dispatch host target start)
  (final.context.response, final.world)

/-- Requests for direct spellings of one path are answered alike: both are refused, or both are
dispatched at the same path, which is the one that is meant, as seen from the base path. -/
theorem serve_of_direct (app : App ν) (hbase : Path.Canonical app.basePath) (w w' : World ν)
    (request request' : Request) (hdirect : app.Direct request.uri.path)
    (hdirect' : app.Direct request'.uri.path)
    (hclean : Path.clean request.uri.path = Path.clean request'.uri.path) :
    ∃ target?, (app.serve w request = app.serveAt w request target? ∧
        app.serve w' request' = app.serveAt w' request' target?) ∧
      target? = app.routePath? (Path.clean request.uri.path) ∧
      ∀ target, target? = some target ↔
        Path.Canonical target ∧ Path.join app.basePath target = Path.clean request.uri.path := by
  refine ⟨app.routePath? request.uri.path, ⟨rfl, ?_⟩, ?_, fun _ => hdirect.routePath?_eq_some_iff⟩
  · rw [hdirect.routePath?_eq hdirect' hclean]
    rfl
  · have hcanonical := Path.canonical_clean request.uri.path
    exact hdirect.routePath?_eq (direct_of_canonical hbase hcanonical) hcanonical.clean_eq.symm

theorem serve_of_direct_wandering :
    let app : App Empty := .mountedAt "/app"
    let wandering : Request := { uri := { path := "/app//a/../b/" } }
    let plain : Request := { uri := { path := "/app/b" } }
    app.Direct wandering.uri.path ∧
      app.serve {} wandering = app.serveAt {} wandering (some "/b") ∧
      app.serve {} plain = app.serveAt {} plain (some "/b") := by
  intro app wandering plain
  have hbase : Path.Canonical app.basePath := Path.canonical_clean "/app"
  have hdirect : app.Direct wandering.uri.path := by
    refine .below "//a/../b/" (by decide +kernel) (.inr (by decide)) ?_
    have hsplit : Text.split '/' "//a/../b/".toList =
        [[], [], ['a'], ['.', '.'], ['b'], []] := by decide
    rw [hsplit]
    simp [Path.Stays]
  have hdirect' : app.Direct plain.uri.path :=
    direct_of_canonical hbase (Path.canonical_iff.mpr (by decide +kernel))
  obtain ⟨target?, ⟨hserve, hserve'⟩, -, htarget⟩ :=
    serve_of_direct app hbase {} {} wandering plain hdirect hdirect' (by decide +kernel)
  obtain rfl := (htarget "/b").mpr ⟨Path.canonical_iff.mpr (by decide +kernel), by decide +kernel⟩
  exact ⟨hdirect, hserve, hserve'⟩

/-- A spelling that leads out of the base path is dispatched as if it lay below it, and the
canonical path is refused. -/
theorem routePath?_not_alike :
    let app : App Empty := .mountedAt "/app"
    Path.clean "/app/../x" = Path.clean "/x" ∧
      app.routePath? "/app/../x" = some "/x" ∧ app.routePath? "/x" = none := by
  decide +kernel

end App

end Signpost
