import Signpost.Proofs.Dispatch.Including
import Signpost.Proofs.Dispatch.Silencing

/-!
# Requests are isolated from registrations

Whatever the callbacks of a request register, wherever in the request they do so, its response and
everything that its dispatch does are as if they had not, in included pages too; and what is
published in the end is what was published before with the registrations carried out in the order of
the calls (`App.serve_isolated`). It is the router of the next request.
-/

namespace Signpost

open Http (Request Response Status)

variable {ν μ : Type}

/-! ## Sites -/

namespace Site

/-- The site whose callbacks register nothing. -/
def silenced (σ : Silencing ν μ) (site : Site ν) : Site μ :=
  { root := site.root.map fun root => root.silenced σ
    errorPage := fun status => (site.errorPage status).silenced σ
    room := site.room }

/-- No callback that a request can come to goes by what its registrations report. -/
structure Steady (site : Site ν) : Prop where
  root : ∀ root, site.root = some root → root.Steady
  errorPage : ∀ status, (site.errorPage status).Steady

theorem Steady.simulates {σ : Silencing ν μ} {w : World ν} {v : World μ} {site : Site ν}
    (hsite : site.Steady) : site.Simulates (σ.Shadows w v) (site.silenced σ) := by
  refine ⟨?_, fun status => (hsite.errorPage status).simulates, rfl⟩
  unfold silenced
  cases hroot : site.root with
  | none => exact .none
  | some root => exact .some (hsite.root root hroot).simulates

end Site

/-! ## Applications -/

/-- The world whose router registers nothing. -/
def World.silenced (σ : Silencing ν μ) (w : World ν) : World μ :=
  { published := w.published.silenced σ
    shared := w.shared
    trail := w.trail.map fun event => event.map σ.note
    overflowed := w.overflowed }

namespace App

/-- The application whose callbacks register nothing. -/
def silenced (σ : Silencing ν μ) (app : App ν) : App μ :=
  { basePath := app.basePath
    errorPage := fun status => (app.errorPage status).silenced σ
    room := app.room
    maxBodyBytes := app.maxBodyBytes }

/-- A request and its silenced form have the same response and leave worlds that shadow each
other. -/
theorem serve_shadows (σ : Silencing ν μ) (app : App ν) (w : World ν) (request : Request)
    (hrouter : w.published.Steady) (herror : ∀ status, (app.errorPage status).Steady) :
    ∃ log : List (Occurrence ν),
      (app.serve w request).1 = ((app.silenced σ).serve (w.silenced σ) request).1 ∧
        (app.serve w request).2.trail = Occurrence.events log ++ w.trail ∧
        (app.serve w request).2.published = (w.registerAll (Occurrence.calls log)).published ∧
        ((app.silenced σ).serve (w.silenced σ) request).2 =
          { published := (w.silenced σ).published
            shared := (app.serve w request).2.shared
            trail := log.filterMap σ.shadow? ++ (w.silenced σ).trail
            overflowed := (app.serve w request).2.overflowed } := by
  have hsite : (app.site w).Steady := by
    refine ⟨?_, herror⟩
    rintro _ ⟨⟩
    exact hrouter
  have hR := Silencing.Shadows.simulation σ w (w.silenced σ)
  have hhost : ((app.site w).host (app.context request)).Simulates (σ.Shadows w (w.silenced σ))
      (((app.silenced σ).site (w.silenced σ)).host ((app.silenced σ).context request)) :=
    hsite.simulates.hostBy hR (hsite.simulates.pages hR _) _
  have hstart : σ.Shadows w (w.silenced σ) { context := app.context request, world := w }
      { context := (app.silenced σ).context request, world := w.silenced σ } :=
    have hshared : w.shared = (w.silenced σ).shared := rfl
    .start hshared rfl (app.context request)
  obtain ⟨s, t, hserved, hsilenced, log, htrail, hpublished, rfl⟩ :
      ∃ s t, app.serve w request = (s.context.response, s.world) ∧
        (app.silenced σ).serve (w.silenced σ) request = (t.context.response, t.world) ∧
        σ.Shadows w (w.silenced σ) s t := by
    unfold serve
    have hpath : (app.silenced σ).routePath? ((app.silenced σ).context request).path =
        app.routePath? (app.context request).path := rfl
    dsimp only
    rw [hpath]
    cases app.routePath? (app.context request).path with
    | none => exact ⟨_, _, rfl, rfl, hhost.report .notFound .notFound hstart⟩
    | some path =>
      exact ⟨_, _, rfl, rfl, hhost.settle (hrouter.simulates.dispatch hR hhost path hstart)⟩
  rw [hserved, hsilenced]
  exact ⟨log, rfl, htrail, hpublished, rfl⟩

end App

/-! ## What happens in a request -/

/-- The occurrence that the silenced run noted. -/
def Event.occurrence : Event (ν ⊕ (Bool × List (Step ν))) → Occurrence ν
  | .enter place i => .inl (.enter place i)
  | .descend place i => .inl (.descend place i)
  | .resume place i answer => .inl (.resume place i answer)
  | .leave place i result claimed => .inl (.leave place i result claimed)
  | .serve place i => .inl (.serve place i)
  | .served place i result => .inl (.served place i result)
  | .refuse place i => .inl (.refuse place i)
  | .note (.inl entry) => .inl (.note entry)
  | .note (.inr call) => .inr call

namespace Occurrence

theorem occurrence_map_inl (event : Event ν) : (event.map Sum.inl).occurrence = .inl event := by
  cases event <;> rfl

theorem shadow?_mute (occurrence : Occurrence ν) :
    Silencing.shadow? .mute occurrence = occurrence.getLeft? := by
  cases occurrence with
  | inl event => exact congrArg some event.map_id
  | inr call => rfl

theorem shadow?_record (occurrence : Occurrence ν) :
    (Silencing.shadow? .record occurrence).map Event.occurrence = some occurrence := by
  cases occurrence with
  | inl event => exact congrArg some (occurrence_map_inl event)
  | inr call => rfl

variable (log : List (Occurrence ν)) (trail : List (Event ν))

theorem filterMap_shadow?_mute : log.filterMap (Silencing.shadow? .mute) = events log :=
  List.filterMap_congr fun occurrence _ => shadow?_mute occurrence

theorem map_filterMap_shadow?_record :
    (log.filterMap (Silencing.shadow? .record)).map Event.occurrence = log := by
  rw [List.map_filterMap]
  exact (List.filterMap_congr fun occurrence _ => shadow?_record occurrence).trans
    (List.filterMap_some ..)

theorem events_append_map_inl : events (log ++ trail.map .inl) = events log ++ trail := by
  simp [events, List.filterMap_append, List.filterMap_map, Function.comp_def]

theorem calls_append_map_inl : calls (log ++ trail.map .inl) = calls log := by
  simp [calls, List.filterMap_append, List.filterMap_map, Function.comp_def]

end Occurrence

namespace App

/-- What happens in a request, the latest first: what its silenced form has in the trail, where
every registration leaves a note instead. -/
def occurrences (app : App ν) (w : World ν) (request : Request) : List (Occurrence ν) :=
  ((app.silenced .record).serve (w.silenced .record) request).2.trail.map Event.occurrence

/-- A request is answered and dispatched as in the run in which its registrations do nothing, those
of the error page included, however its reports nest. And the router that is published in the end,
on which the next request is served, is the one before it after the registrations in the order of
the calls. -/
theorem serve_isolated (app : App ν) (w : World ν) (request next : Request)
    (hrouter : w.published.Steady) (herror : ∀ status, (app.errorPage status).Steady) :
    let served := app.serve w request
    let silent := (app.silenced .mute).serve (w.silenced .mute) request
    let occurrences := app.occurrences w request
    let registered := w.registerAll (Occurrence.calls occurrences)
    (served.1 = silent.1 ∧ served.2.trail = silent.2.trail ∧ served.2.shared = silent.2.shared ∧
        served.2.overflowed = silent.2.overflowed ∧
        silent.2.published = (w.silenced .mute).published) ∧
      served.2.trail = Occurrence.events occurrences ∧
      served.2.published = registered.published ∧
      app.serve served.2 next = app.serveFrom registered.published served.2 next := by
  intro served silent occurrences registered
  obtain ⟨log, hresponse, htrail, -, hsilent⟩ :=
    serve_shadows .mute app w request hrouter herror
  have hmute : (w.silenced .mute).trail = w.trail :=
    (List.map_congr_left fun event _ => event.map_id).trans (List.map_id _)
  obtain ⟨log', -, htrail', hpublished', hnoted⟩ :=
    serve_shadows .record app w request hrouter herror
  have hoccurrences : occurrences = log' ++ w.trail.map .inl := by
    change List.map _ _ = _
    rw [hnoted, List.map_append, Occurrence.map_filterMap_shadow?_record]
    simp only [World.silenced, List.map_map]
    exact congrArg (log' ++ ·)
      (List.map_congr_left fun event _ => Occurrence.occurrence_map_inl event)
  have hpublished : served.2.published = registered.published := by
    change _ = (w.registerAll (Occurrence.calls occurrences)).published
    rw [hoccurrences, Occurrence.calls_append_map_inl]
    exact hpublished'
  refine ⟨⟨hresponse, ?_, by rw [hsilent], by rw [hsilent], by rw [hsilent]⟩, ?_, hpublished, ?_⟩
  · rw [hsilent, hmute, Occurrence.filterMap_shadow?_mute]
    exact htrail
  · rw [hoccurrences, Occurrence.events_append_map_inl]
    exact htrail'
  · rw [← hpublished]
    exact app.serve_eq_serveFrom served.2 next

/-- A router whose filter registers one that claims every request, and goes on. -/
def selfExtendingRouter : Router Empty :=
  { filters :=
      [{ pattern := none
         callback := .register true [.filter "" (.claim .done)] fun _ => .next fun _ => .done }] }

/-- What the filter registers is not there for the request itself, and is there for the next one. -/
theorem serve_isolated_selfExtending :
    let app : App Empty := {}
    let w : World Empty := { published := selfExtendingRouter }
    let request : Request := { uri := { path := "/a" } }
    let served := app.serve w request
    let registered := w.registerAll (Occurrence.calls (app.occurrences w request))
    served.1.status = .notFound ∧ served.2.published = registered.published ∧
      (app.serveFrom registered.published served.2 request).1.status = .ok := by
  intro app w request served registered
  have hrouter : selfExtendingRouter.Steady := by
    refine ⟨⟨?_, ?_⟩, trivial⟩
    · simp [selfExtendingRouter, Callback.Steady, Callback.done]
    · simp [selfExtendingRouter]
  have herror : ∀ status, (app.errorPage status).Steady := by
    refine fun status c => ?_
    dsimp only
    split <;> exact trivial
  obtain ⟨⟨hresponse, -⟩, -, hpublished, hnext⟩ :=
    serve_isolated app w request request hrouter herror
  refine ⟨?_, hpublished, ?_⟩
  · rw [hresponse]
    decide +kernel
  · rw [← hnext]
    decide +kernel

end App

end Signpost
