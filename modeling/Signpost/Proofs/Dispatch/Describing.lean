import Mathlib.Data.List.TakeWhile
import Signpost.Proofs.Dispatch.Including
import Signpost.Proofs.Dispatch.Locating
import Signpost.Proofs.Path.Spelling

/-!
# Paths of included pages

The router is dispatched with the target of an include. The context of the included page has a path
of its own: what is left of the target, behind the base path, when it is read as a request target.
The reader drops what stands behind a `#` or a `?` (`Http.Uri.path_of_parse`), and no path that an
application sees as the target is shorter than the target behind the base path
(`App.length_join_le`). So the context tells what the router was dispatched with exactly if neither
character stands there (`App.openings_described`). A `#` in what is included is enough for the two
to differ (`App.openings_not_described`).
-/

namespace Signpost

open Http (Request Uri)

/-! ## Shortest spellings -/

namespace Path

/-- What a walk keeps is not longer than what it walks over. -/
theorem length_walk_le (pieces : List (List Char)) : ∀ walked,
    ((walk walked pieces).flatMap ('/' :: ·)).length ≤
      (walked.flatMap ('/' :: ·)).length + (pieces.flatMap ('/' :: ·)).length := by
  induction pieces with
  | nil =>
    intro walked
    rw [walk, List.length_flatMap, List.map_reverse, List.sum_reverse, ← List.length_flatMap]
    exact Nat.le_add_right _ _
  | cons piece pieces ih =>
    intro walked
    have hcons (e : List Char) (es : List (List Char)) :
        ((e :: es).flatMap ('/' :: ·)).length =
          e.length + 1 + (es.flatMap ('/' :: ·)).length := by
      rw [List.flatMap_cons, List.length_append, List.length_cons]
    rw [walk, hcons]
    split
    · have hrest := ih walked
      omega
    · split
      · have hrest := ih walked.tail
        have htail : (walked.tail.flatMap ('/' :: ·)).length ≤
            (walked.flatMap ('/' :: ·)).length := by
          cases walked with
          | nil => exact Nat.le_refl _
          | cons e walked =>
            rw [hcons]
            exact Nat.le_add_left _ _
        omega
      · have hrest := ih (piece :: walked)
        rw [hcons] at hrest
        omega

theorem length_flatMap_elements_le {rest : String} (h : IsRest rest) :
    ((elements rest.toList).flatMap ('/' :: ·)).length ≤ rest.toList.length := by
  rcases h with rfl | hslash
  · decide
  · obtain ⟨t, ht⟩ := List.head?_eq_some_iff.mp hslash
    have hwalk := length_walk_le (Text.split '/' t) []
    rw [Text.flatMap_split, List.flatMap_nil, List.length_nil, Nat.zero_add] at hwalk
    rw [ht, elements_cons_slash]
    exact hwalk

theorem length_clean_le {path : String} (h : path.toList.head? = some '/') :
    (clean path).toList.length ≤ path.toList.length := by
  rw [toList_clean]
  by_cases hnil : elements path.toList = []
  · obtain ⟨t, ht⟩ := List.head?_eq_some_iff.mp h
    rw [hnil, ht]
    exact Nat.le_add_left _ _
  · rw [ofElements_eq_flatMap hnil]
    exact length_flatMap_elements_le (.inr h)

end Path

namespace App

variable {ν : Type} {app : App ν} {path target : String}

/-- No path that an application sees as the target is shorter than the joined one. -/
theorem length_join_le (hbase : Path.Canonical app.basePath) (hslash : path.toList.head? = some '/')
    (h : app.routePath? path = some target) :
    (Path.join app.basePath target).toList.length ≤ path.toList.length := by
  by_cases hroot : app.basePath = "/"
  · rw [routePath?_of_root hroot] at h
    obtain rfl := Option.some.inj h
    rw [hroot, Path.join_root (Path.canonical_clean path)]
    exact Path.length_clean_le hslash
  · obtain ⟨rest, rfl, hrest, rfl⟩ := (routePath?_eq_some_iff hroot).mp h
    rw [Path.join_eq_append hbase hroot (Path.canonical_clean rest), Path.elements_clean,
      String.toList_append, List.length_append, List.length_append]
    exact Nat.add_le_add_left (Path.length_flatMap_elements_le hrest) _

/-- Of the beginnings of the joined path, only the whole is seen as the target. -/
theorem routePath?_eq_of_isPrefix (hbase : Path.Canonical app.basePath)
    (htarget : Path.Canonical target) (hslash : path.toList.head? = some '/')
    (hbeginning : path.toList <+: (Path.join app.basePath target).toList) :
    app.routePath? path = some target ↔ path = Path.join app.basePath target := by
  constructor
  · intro h
    exact String.toList_inj.mp (hbeginning.eq_of_length_le (length_join_le hbase hslash h))
  · rintro rfl
    exact routePath?_join hbase htarget

end App

/-! ## Paths of request targets -/

namespace Http.Uri

/-- The path of a request target ends before such a character. -/
def isPathEnd (c : Char) : Bool := c == '#' || c == '?'

theorem path_of_ofPath {s : List Char} {uri : Uri} (h : ofPath s = .ok uri) :
    uri.path.toList = s.takeWhile (!isPathEnd ·) := by
  unfold ofPath at h
  cases hread : pathAndQuery? s with
  | none =>
    rw [hread] at h
    cases h
  | some read =>
    rw [hread] at h
    obtain rfl := Except.ok.inj h
    obtain ⟨-, hread⟩ := Option.ite_none_right_eq_some.mp hread
    obtain rfl := Option.some.inj hread
    have hends : (fun c => decide ((c != '?') = true ∧ (c != '#') = true)) =
        fun c => !isPathEnd c := by
      funext c
      rw [isPathEnd, Bool.not_or, Bool.decide_and, Bool.decide_coe, Bool.decide_coe, Bool.and_comm]
      rfl
    rw [String.toList_ofList, List.takeWhile_takeWhile, hends]

theorem path_of_parse {text : String} {uri : Uri} (hslash : text.toList.head? = some '/')
    (h : parse text = .ok uri) : uri.path.toList = text.toList.takeWhile (!isPathEnd ·) := by
  obtain ⟨rest, htext⟩ := List.head?_eq_some_iff.mp hslash
  unfold parse at h
  split at h
  · cases h
  · rw [htext] at h ⊢
    cases rest with
    | nil =>
      obtain rfl := Except.ok.inj h
      decide
    | cons c rest =>
      change (if '/' = '/' then ofPath ('/' :: c :: rest) else _) = _ at h
      rw [if_pos rfl] at h
      exact path_of_ofPath h

end Http.Uri

namespace Context

variable {c : Context} {argument : String} {request : Request}

theorem exists_uri_of_includeRequest (h : c.includeRequest argument = .ok request) :
    ∃ uri, Uri.parse (c.includeUri argument) = .ok uri ∧ request = c.getRequest uri := by
  cases huri : Uri.parse (c.includeUri argument) with
  | ok uri => exact ⟨uri, rfl, Except.ok.inj (h.symm.trans (includeRequest_eq huri))⟩
  | error cause =>
    have hmethod : Http.Method.ofName? Http.Method.get.name = some .get := by decide
    have hbuild : Request.build Http.Method.get.name (c.includeUri argument) [] [] =
        .error (.uri cause) := by
      simp only [Request.build, hmethod, huri]
    have hrefused : c.includeRequest argument = .error (.uri cause) := by
      unfold includeRequest
      exact congrArg (Except.map _) hbuild
    cases h.symm.trans hrefused

/-- The query that an include asks for does not count, nor does what the reader takes for one. -/
theorem path_child (h : c.includeRequest argument = .ok request) :
    (c.child request).path.toList =
      (Path.join c.basePath (includeTarget argument).1).toList.takeWhile (!Uri.isPathEnd ·) := by
  obtain ⟨uri, huri, rfl⟩ := exists_uri_of_includeRequest h
  have hjoin := Path.canonical_join c.basePath (includeTarget argument).1
  have hslash : (c.includeUri argument).toList.head? = some '/' := by
    rw [includeUri, String.toList_append, List.head?_append, hjoin.head?_eq]
    rfl
  have hquery : (((includeTarget argument).2.map ("?" ++ ·)).getD "").toList.takeWhile
      (!Uri.isPathEnd ·) = [] := by
    cases (includeTarget argument).2 with
    | none => rfl
    | some query =>
      rw [Option.map_some, Option.getD_some, String.toList_append]
      rfl
  change uri.path.toList = _
  rw [Uri.path_of_parse hslash huri, includeUri, String.toList_append, List.takeWhile_append]
  split
  · next hall =>
    rw [hquery, List.append_nil]
    exact (List.IsPrefix.eq_of_length (List.takeWhile_prefix _) hall).symm
  · rfl

end Context

/-! ## What contexts tell -/

namespace App

variable {ν : Type}

/-- What happens while a request is served happens on the pages of its openings. The path of the
request is what the router is dispatched with. That of an included page is the beginning of the
joined path, up to a `#` or a `?`. It is what the router is dispatched with if neither stands there,
and only then. -/
theorem openings_described (app : App ν) (hbase : Path.Canonical app.basePath) (w : World ν)
    (request : Request) :
    (∃ es, (app.serve w request).2.trail = es ++ w.trail ∧
      ∀ e ∈ es, e.On (app.openings w request)) ∧
    ∀ o ∈ app.openings w request,
      (o.context.depth = 0 → app.routePath? o.context.path = o.target?) ∧
      (0 < o.context.depth → ∃ target, o.target? = some target ∧
        let joined := (Path.join app.basePath target).toList
        o.context.path.toList = joined.takeWhile (!Uri.isPathEnd ·) ∧
          (app.routePath? o.context.path = o.target? ↔
            ∀ c ∈ joined, Uri.isPathEnd c = false)) := by
  refine ⟨app.told_serve w request, fun o ho => ?_⟩
  rcases app.eq_or_included_of_mem_openings w request o ho with rfl | hincluded
  · exact ⟨fun _ => rfl, fun hdepth => absurd hdepth (Nat.lt_irrefl 0)⟩
  · obtain ⟨c, argument, request, hc, -, hrequest, rfl⟩ := hincluded
    refine ⟨fun hdepth => absurd hdepth (Nat.succ_ne_zero _), fun _ => ?_⟩
    have htarget := Context.canonical_includeTarget argument
    have hpath := Context.path_child hrequest
    rw [hc] at hpath
    refine ⟨_, rfl, hpath, ?_⟩
    have hslash : (c.child request).path.toList.head? = some '/' := by
      obtain ⟨t, ht⟩ := List.head?_eq_some_iff.mp
        (Path.canonical_join app.basePath (Context.includeTarget argument).1).head?_eq
      rw [hpath, ht]
      rfl
    have hbeginning := List.takeWhile_prefix (!Uri.isPathEnd ·)
      (l := (Path.join app.basePath (Context.includeTarget argument).1).toList)
    rw [← hpath] at hbeginning
    rw [routePath?_eq_of_isPrefix hbase htarget hslash hbeginning, ← String.toList_inj, hpath,
      List.takeWhile_eq_self_iff]
    simp only [Bool.not_eq_true']

theorem openings_described_query :
    let query : Guard Empty := { pattern := none, callback := .page "x/../page?q" fun _ => .done }
    let app : App Empty := .mountedAt "/app"
    let opened := app.openings { published := { filters := [query] } } { uri := { path := "/app" } }
    ∃ o ∈ opened, o.context.path = "/app/page" ∧ o.target? = some "/page" ∧
      app.routePath? o.context.path = o.target? := by
  intro query app opened
  have hsecond : (opened[1]?.map fun o => (o.context.path, o.context.depth, o.target?)) =
      some ("/app/page", 1, some "/page") := by
    decide +kernel
  obtain ⟨o, hget, ho⟩ := Option.map_eq_some_iff.mp hsecond
  obtain ⟨hpath, hdepth, htarget⟩ : o.context.path = "/app/page" ∧ o.context.depth = 1 ∧
      o.target? = some "/page" := by
    simpa only [Prod.mk.injEq] using ho
  have hmem : o ∈ opened := List.mem_of_getElem? hget
  obtain ⟨-, hall⟩ := openings_described app (Path.canonical_clean "/app") _ _
  obtain ⟨target, heq, -, hdescribed⟩ := (hall o hmem).2 (hdepth ▸ Nat.one_pos)
  obtain rfl := Option.some.inj (htarget.symm.trans heq)
  have hplain : ∀ c ∈ (Path.join app.basePath "/page").toList, Uri.isPathEnd c = false :=
    List.forall_iff_forall_mem.mp (by decide +kernel)
  exact ⟨o, hmem, hpath, htarget, hdescribed.mpr hplain⟩

/-- An include of `/page#part` dispatches the router with all of it. The context of the page has the
path `/page`. -/
theorem openings_not_described :
    let part : Guard Empty := { pattern := none, callback := .page "/page#part" fun _ => .done }
    let app : App Empty := {}
    let opened := app.openings { published := { filters := [part] } } { uri := { path := "/" } }
    (opened[1]?.map fun o => (o.context.path, o.target?)) = some ("/page", some "/page#part") ∧
      ¬∀ o ∈ opened, app.routePath? o.context.path = o.target? := by
  decide +kernel

end App

end Signpost
