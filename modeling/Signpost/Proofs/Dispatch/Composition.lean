import Signpost.Proofs.Dispatch.Alike
import Signpost.Proofs.Dispatch.Leaves
import Signpost.Proofs.Pattern.Joining
import Signpost.Proofs.RouteSpec

/-!
# Mounts compose patterns

A router that has one page below a mount deals with the same paths, in the same way, as a router
that has the page itself under the joined pattern (`Router.mount_agrees`). A match leaves the same
variables, and a miss leaves those that were there.
-/

namespace Signpost

open Http (Method)

variable {ν : Type}

/-! ## One route -/

namespace Router

variable {page mount : Pattern} {handlers : Dict (Callback ν .handler)} {steps : List (Step ν)}
  {below : Router ν}

/-- The router with a page and nothing else. -/
def ofPage (page : Pattern) (handlers : Dict (Callback ν .handler)) : Router ν :=
  { routes := [.page page handlers] }

theorem handle_empty {route method text : String} {callback : Callback ν .handler}
    (hroute : RouteSpec.parse route = { methods := [method], pattern := text })
    (hpage : Pattern.compile .exact text = .ok page) :
    ({} : Router ν).handle route callback =
      .ok (ofPage page (Dict.empty.insert method callback)) := by
  simp [handle, hroute, Route.rebind, Route.create, hpage, Route.bind, Dict.contains, ofPage,
    Except.map]

theorem succeeds_handle {route method text : String} {callback : Callback ν .handler}
    (hroute : RouteSpec.parse route = { methods := [method], pattern := text })
    (hpage : Pattern.compile .exact text = .ok page) :
    Step.Succeeds [.handle route callback] {}
      (ofPage page (Dict.empty.insert method callback)) := by
  have hperform : (Step.handle route callback).perform false {} =
      (ofPage page (Dict.empty.insert method callback), .added 0 1) := by
    rw [Step.perform, handle_empty hroute hpage]
    rfl
  refine .cons ?_ ?_
  · rw [hperform]
    trivial
  · rw [hperform]
    exact .nil _

theorem succeeds_mount {pattern : String} (hself : mountsSelf pattern = false)
    (hmount : Pattern.compile .mount pattern = .ok mount) (hsteps : Step.Succeeds steps {} below) :
    Step.Succeeds [.mount pattern steps] {} (({} : Router ν).mount mount below) := by
  obtain ⟨hbelow, -, hreports⟩ := hsteps
  have hperform : (Step.mount pattern steps).perform false {} =
      (({} : Router ν).mount mount below,
        .mounted 0 1 (Step.performAll false steps ({} : Router ν)).2.reports) := by
    simp only [Step.perform, hself, Bool.false_eq_true, if_false, hmount, hbelow]
    rfl
  refine .cons ?_ ?_
  · rw [hperform]
    exact hreports
  · rw [hperform]
    exact .nil _

variable {host : Host ν} {place : Place} {path : String} {s : State ν}

/-- A page alone: it serves what it matches, and has the last word then. -/
theorem dispatchAll_page :
    Route.dispatchAll host place 0 [.page page handlers] s =
      match page.matchVars? place.path s.context.vars with
      | none => (.ok false, s)
      | some vars => Route.serve host place 0 handlers (s.setVars vars) := by
  rw [Route.dispatchAll, Route.dispatch]
  cases page.matchVars? place.path s.context.vars with
  | none => rfl
  | some vars =>
    have hne : (Route.serve host place 0 handlers (s.setVars vars)).1 ≠ .ok false :=
      (Route.decides_serve place 0 page handlers vars s).answer_ne
    dsimp only
    match hserve : Route.serve host place 0 handlers (s.setVars vars) with
    | (.ok false, t) => exact absurd (congrArg Prod.fst hserve) hne
    | (.ok true, t) => rfl
    | (.error failure, t) => rfl

theorem dispatch_ofPage : (ofPage page handlers).dispatch host path s =
    match page.matchVars? path s.context.vars with
    | none => (.ok false, s)
    | some vars =>
      Route.serve host { depth := s.context.depth, mounts := [], path } 0 handlers
        (s.setVars vars) :=
  dispatchAll_page

/-- Setting the variables back leaves the state as it was; without captures nothing was changed. -/
theorem restore_setVars (captures : Vars) :
    (if captures.isEmpty then s.setVars (s.context.vars.merge captures)
      else (s.setVars (s.context.vars.merge captures)).setVars s.context.vars) = s := by
  split
  · rename_i hempty
    rw [Dict.merge_of_isEmpty _ hempty]
    rfl
  · rfl

theorem dispatch_mount_ofPage :
    (({} : Router ν).mount mount (ofPage page handlers)).dispatch host path s =
      match mount.matchPrefix? path Dict.empty with
      | none => (.ok false, s)
      | some (suffix, captures) =>
        match page.matchVars? suffix (s.context.vars.merge captures) with
        | none => (.ok false, s)
        | some vars =>
          Route.serve host { depth := s.context.depth, mounts := [0], path := suffix } 0 handlers
            (s.setVars vars) := by
  let root : Place := { depth := s.context.depth, mounts := [], path }
  change Route.dispatchAll host root 0 [.mount mount [] [.page page handlers]] s = _
  rw [Route.dispatchAll, Route.dispatch]
  cases mount.matchPrefix? path Dict.empty with
  | none => rfl
  | some found =>
    obtain ⟨suffix, captures⟩ := found
    have hsame : page.matchVars? (root.below 0 suffix).path
        (s.setVars (s.context.vars.merge captures)).context.vars =
          page.matchVars? suffix (s.context.vars.merge captures) := rfl
    simp only [Guard.through, dispatchAll_page, hsame]
    cases page.matchVars? suffix (s.context.vars.merge captures) with
    | none => exact congrArg (Except.ok false, ·) (restore_setVars captures)
    | some vars =>
      have hne : (Route.serve host (root.below 0 suffix) 0 handlers
          ((s.setVars (s.context.vars.merge captures)).setVars vars)).1 ≠ .ok false :=
        (Route.decides_serve (root.below 0 suffix) 0 page handlers vars _).answer_ne
      dsimp only
      change _ = Route.serve host (root.below 0 suffix) 0 handlers
        ((s.setVars (s.context.vars.merge captures)).setVars vars)
      generalize Route.serve host (root.below 0 suffix) 0 handlers
        ((s.setVars (s.context.vars.merge captures)).setVars vars) = served at hne ⊢
      obtain ⟨answer, t⟩ := served
      cases answer with
      | error failure => rfl
      | ok matched =>
        cases matched with
        | false => exact absurd rfl hne
        | true => rfl

/-! ## A page below a mount -/

/-- The routers deal with the same paths in the same way: where one misses, the other misses and
nothing has changed; where one serves, the other serves the same handlers with the same variables.
Whatever the callbacks do then, the runs differ in nothing but their trails. -/
def Agrees (a b : Router ν) (handlers : Dict (Callback ν .handler)) : Prop :=
  ∀ host host' : Host ν, host.Alike Eq host' →
    ∀ path, Path.clean path = path → '\n' ∉ path.toList → ∀ s : State ν,
      ((a.dispatch host path s = (.ok false, s) ∧ b.dispatch host' path s = (.ok false, s)) ∨
        ∃ place place' vars,
          a.dispatch host path s = Route.serve host place 0 handlers (s.setVars vars) ∧
          b.dispatch host' path s = Route.serve host' place' 0 handlers (s.setVars vars)) ∧
      AnswersAlike Eq (a.dispatch host path s) (b.dispatch host' path s)

theorem agrees_of_matchVars? {joined : Pattern}
    (h : ∀ path, Path.Canonical path → '\n' ∉ path.toList → ∀ vars,
      joined.matchVars? path vars =
        (mount.matchPrefix? path Dict.empty).bind fun (suffix, captures) =>
          page.matchVars? suffix (vars.merge captures)) :
    (({} : Router ν).mount mount (ofPage page handlers)).Agrees (ofPage joined handlers)
      handlers := by
  intro host host' hhost path hpath hfeed s
  have hmatch := h path (Path.canonical_iff.mpr hpath) hfeed s.context.vars
  have hmiss : AnswersAlike Eq ((.ok false : Except Failure Bool), s) (.ok false, s) :=
    ⟨rfl, .refl s⟩
  rw [dispatch_mount_ofPage, dispatch_ofPage, hmatch]
  cases mount.matchPrefix? path Dict.empty with
  | none => exact ⟨.inl ⟨rfl, rfl⟩, hmiss⟩
  | some found =>
    obtain ⟨suffix, captures⟩ := found
    simp only [Option.bind_some]
    cases page.matchVars? suffix (s.context.vars.merge captures) with
    | none => exact ⟨.inl ⟨rfl, rfl⟩, hmiss⟩
    | some vars =>
      -- the handlers stand at different places, which only the trails show
      refine ⟨.inr ⟨_, _, vars, rfl, rfl⟩, Route.serve_simulates hhost.simulates
        (fun h _ => h.log _ _) (fun method => ?_) 0 (.refl _) rfl⟩
      cases handlers.get? method with
      | none => exact .none
      | some callback => exact .some callback.blind_eq.simulates

/-- Mounting composes patterns. Let `p` be a pattern without `**` other than the root, and let `p`
and `q` be cleaned, without blanks, and together made of literal characters, stars and captures with
different names. Then, unless a machine is too large, the router that has a handler at `q` below a
mount at `p` agrees with the router that has the handler at `p` and `q` put together. -/
theorem mount_agrees {p q : String} (hp : Path.clean p = p) (hq : Path.clean q = q)
    (hroot : p ≠ "/") (hstars : ¬['*', '*'] <:+: p.toList)
    (hblank : ∀ c ∈ (p ++ q).toList, Text.isBlank c = false)
    (hplain : Pattern.Plain [] (p ++ q).toList) (m : Method) (callback : Callback ν .handler) :
    (Pattern.compile .mount p = .error (.invalidRegex p .tooLarge) ∨
        Pattern.compile .exact q = .error (.invalidRegex q .tooLarge) ∨
        Pattern.compile .exact (Path.clean (p ++ q)) =
          .error (.invalidRegex (Path.clean (p ++ q)) .tooLarge)) ∨
      ∃ a b : Router ν,
        Step.Succeeds [.mount p [.handle (m.name ++ " " ++ q) callback]] {} a ∧
        Step.Succeeds [.handle (m.name ++ " " ++ (p ++ q)) callback] {} b ∧
        a.Agrees b (Dict.empty.insert (String.ofList (upperAscii m.name.toList)) callback) := by
  have hpCanonical := Path.canonical_iff.mpr hp
  have hqCanonical := Path.canonical_iff.mpr hq
  have hjoin : Path.clean (p ++ q) = Path.join p q := Path.clean_append p hqCanonical.head?_eq
  rw [hjoin]
  refine (Pattern.joins_join hpCanonical hqCanonical hroot hstars hplain).imp_right ?_
  rintro ⟨mount, page, whole, hmount, hpage, hwhole, hmatch⟩
  have hblankq : ∀ c ∈ q.toList, Text.isBlank c = false := fun c hc =>
    hblank c (by rw [String.toList_append]; exact List.mem_append_right _ hc)
  have hne : (p ++ q).toList ≠ [] := by simp [hqCanonical.toList_ne_nil]
  have hrouteq := RouteSpec.parse_method_pattern m hqCanonical.toList_ne_nil hblankq
  have hroutepq := RouteSpec.parse_method_pattern m hne hblank
  rw [hq] at hrouteq
  rw [hjoin] at hroutepq
  have hself : mountsSelf p = false := by
    have hempty : p.isEmpty = false := by
      rw [Bool.eq_false_iff, ne_eq, String.isEmpty_iff]
      rintro rfl
      exact absurd hp (by decide)
    simp [mountsSelf, hempty, hroot]
  exact ⟨_, _, succeeds_mount hself hmount (succeeds_handle hrouteq hpage),
    succeeds_handle hroutepq hwhole, agrees_of_matchVars? hmatch⟩

theorem mount_agrees_files : ∃ a b : Router Unit,
    Step.Succeeds [.mount "/u/\x7bid\x7d" [.handle "GET /f-\x7bname\x7d" (.finish (.ok ()))]] {} a ∧
      Step.Succeeds [.handle "GET /u/\x7bid\x7d/f-\x7bname\x7d" (.finish (.ok ()))] {} b ∧
      a.Agrees b (Dict.empty.insert "GET" (.finish (.ok ()))) := by
  have hplain : Pattern.Plain [] ("/u/\x7bid\x7d" ++ "/f-\x7bname\x7d").toList := by
    have htext : ("/u/\x7bid\x7d" ++ "/f-\x7bname\x7d").toList =
        '/' :: 'u' :: '/' :: '\x7b' :: (['i', 'd'] ++ '\x7d' :: '/' :: 'f' :: '-' ::
          '\x7b' :: (['n', 'a', 'm', 'e'] ++ '\x7d' :: [])) := by decide +kernel
    rw [htext]
    refine .literal (by decide) (.literal (by decide) (.literal (by decide) ?_))
    refine .capture (by decide) (by decide) (.literal (by decide) (.literal (by decide) ?_))
    exact .literal (by decide) (.capture (by decide) (by decide) .nil)
  have hblank : ("/u/\x7bid\x7d" ++ "/f-\x7bname\x7d").toList.all (!Text.isBlank ·) = true := by
    decide +kernel
  obtain (hlarge | hlarge | hlarge) | hagrees := mount_agrees (by decide +kernel)
    (by decide +kernel) (by decide) (by decide +kernel)
    (by simpa using List.all_eq_true.mp hblank) hplain Method.get
    (.finish (.ok ()) : Callback Unit .handler)
  · have hok : (Pattern.compile .mount "/u/\x7bid\x7d").toOption.isSome = true := by decide +kernel
    rw [hlarge] at hok
    cases hok
  · have hok : (Pattern.compile .exact "/f-\x7bname\x7d").toOption.isSome = true := by
      decide +kernel
    rw [hlarge] at hok
    cases hok
  · have hok : (Pattern.compile .exact
        (Path.clean ("/u/\x7bid\x7d" ++ "/f-\x7bname\x7d"))).toOption.isSome = true := by
      decide +kernel
    rw [hlarge] at hok
    cases hok
  · exact hagrees

end Router

end Signpost
