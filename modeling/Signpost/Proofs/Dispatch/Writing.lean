import Signpost.Proofs.Dispatch.Changes

/-!
# Responses are committed once

By the log of a request, its response is committed once and its body is never taken back, whoever
writes: callbacks, included pages, and error pages however their reports nest. The plain error page
keeps to that: a failure that is reported once a response is under way does not show in it
(`App.serve_written`).
-/

namespace Signpost

open Http (Request Response Status)
open Http.Response (Edit)
open Change (editsAll)

variable {ν : Type}

/-! ## Logs -/

/-- What a log of changes from the start on says of the response. -/
structure Written (log : List Change) (r : Response) : Prop where
  eq : r = Response.after {} (editsAll log)
  /-- Between any two moments the response keeps what it is committed to. -/
  grows : ∀ before between rest, editsAll log = before ++ between ++ rest →
    (Response.after {} before).Grows (Response.after {} (before ++ between))
  proper : ∀ before rest, editsAll log = before ++ rest → (Response.after {} before).Proper
  seen : ∀ before r' rest, log = before ++ .seen r' :: rest →
    r' = Response.after {} (editsAll before)
  /-- The first edit that commits gives the status. -/
  status : r.status = ((editsAll log).findSome? Edit.status?).getD .ok
  body : r.body = (editsAll log).flatMap Edit.bytes

theorem Recorded.written {Q : Response → Failure → Status → List Edit → Prop} {r : Response}
    {log : List Change} (h : Recorded Q {} log r) : Written log r := by
  have heq := h.eq_after
  refine ⟨heq, ?_, ?_, ?_, ?_, ?_⟩
  · intro before between rest _
    rw [Response.after_append]
    exact .after _ between
  · exact fun before rest _ => Response.proper_empty.after before
  · rintro before r' rest rfl
    exact h.eq_of_seen
  · rw [heq, Response.status_after]
    rfl
  · rw [heq, Response.body_after]
    rfl

/-! ## Plain reports -/

/-- A report finds the response `r` and leaves it as it is if it is committed. Otherwise it commits
it to the status and makes the message its body. -/
structure PlainlyReported (r : Response) (failure : Failure) (status : Status) (es : List Edit) :
    Prop where
  late : r.committed = true → r.after es = r
  committed : r.committed = false → (r.after es).committed = true
  status : r.committed = false → (r.after es).status = status
  body : r.committed = false →
    (r.after es).body = Text.Utf8.encode (failure.message ++ "\n")

theorem PlainlyReported.of_edits {r : Response} (h : r.Proper) (failure : Failure)
    (status : Status) : PlainlyReported r failure status
      (if r.committed then []
      else [.setHeader .contentType .plainText, .setHeader .contentTypeOptions .noSniff,
        .commit status, .write (Text.Utf8.encode (failure.message ++ "\n"))]) := by
  by_cases hr : r.committed = true
  · rw [if_pos hr]
    have hnot : ¬r.committed = false := by simp [hr]
    exact ⟨fun _ => rfl, hnot.elim, hnot.elim, hnot.elim⟩
  · rw [if_neg hr]
    refine ⟨fun h => absurd h hr, fun _ => ?_, fun _ => ?_, fun _ => ?_⟩
    · simp [Response.committed_after, Edit.status?]
    · simp [Response.status_after, Edit.status?, hr, List.findSome?_cons]
    · have hbody : r.body = [] := Decidable.by_contra fun hbody => hr (h hbody)
      simp [Response.body_after, Edit.bytes, hbody, List.flatMap_cons]

namespace Site

/-- The plain error page leaves a committed response alone; otherwise it shows the failure. It makes
no reports itself, so one call of it is all the room that it takes. -/
theorem reportEdits_plain {site : Site ν} (hplain : site.errorPage = Callback.plainErrorPage)
    (page : String → State ν → Except Failure Status × State ν)
    (pageChanges : String → State ν → List Change) (room : Nat) (failure : Failure)
    (status : Status) (s : State ν) :
    site.reportEdits page pageChanges (room + 1) failure status s =
      if s.context.response.committed then []
      else [.setHeader .contentType .plainText, .setHeader .contentTypeOptions .noSniff,
        .commit status, .write (Text.Utf8.encode (failure.message ++ "\n"))] := by
  unfold reportEdits
  rw [hplain]
  simp only [Callback.changesAlone, Callback.plainErrorPage, Callback.changes, State.record]
  cases s.context.response.committed <;> rfl

end Site

/-- What is true of every log where failures are shown by the plain error page. -/
def PlainReports (log : List Change) : Prop :=
  ∀ before failure status es rest, log = before ++ .reported failure status es :: rest →
    PlainlyReported (Response.after {} (editsAll before)) failure status es

/-! ## Responses to requests -/

/-- What the application reports in the end, because the path is not below its base path or the
dispatch did not deal with it. -/
def App.unsettled? (app : App ν) (w : World ν) (request : Request) : Option (Failure × Status) :=
  let context := app.context request
  match app.routePath? context.path with
  | none => some (.notFound, .notFound)
  | some path =>
    match (w.published.dispatch ((app.site w).host context) path { context, world := w }).1 with
    | .ok true => none
    | .ok false => some (.notFound, .notFound)
    | .error failure => some (failure, .internalError)

theorem App.exists_reported {app : App ν} {w : World ν} {request : Request} {failure : Failure}
    {status : Status} (h : app.unsettled? w request = some (failure, status)) :
    ∃ before es, app.changes w request = before ++ [.reported failure status es] := by
  unfold unsettled? at h
  unfold changes
  dsimp only at h ⊢
  cases hroute : app.routePath? (app.context request).path with
  | none =>
    rw [hroute] at h
    cases h
    exact ⟨[], _, rfl⟩
  | some path =>
    rw [hroute] at h
    dsimp only at h ⊢
    generalize w.published.dispatch _ path _ = answer at h ⊢
    match answer with
    | (.ok true, s) => cases h
    | (.ok false, s) | (.error failure, s) =>
      cases h
      exact ⟨_, _, rfl⟩

/-- The log of a request says all of its response: it is committed once, by the first edit that
commits, and its body is all that was written, in order. If failures are shown by the plain error
page, the reports in the log change nothing once the response is committed, and otherwise they
commit it to their status and their message; what the application reports is the last of them. It is
the same with the log of each included page, of which the including one gets the status and the
body. -/
theorem App.serve_written (app : App ν) (w : World ν) (request : Request) :
    (Written (app.changes w request) (app.serve w request).1 ∧
      (app.errorPage = Callback.plainErrorPage → PlainReports (app.changes w request)) ∧
      ∀ failure status, app.unsettled? w request = some (failure, status) →
        ∃ before es, app.changes w request = before ++ [.reported failure status es]) ∧
    ∀ levels path s log, (app.site w).pageLog? levels path s = some log →
      ∃ r world, (app.site w).page levels path s =
          (.ok r.status, { context := s.context.edit (.write r.body), world }) ∧
        Written log r ∧ (app.errorPage = Callback.plainErrorPage → PlainReports log) := by
  let Q (r : Response) (failure : Failure) (status : Status) (es : List Edit) : Prop :=
    app.errorPage = Callback.plainErrorPage → r.Proper → PlainlyReported r failure status es
  have hQ : (app.site w).Meets Q := by
    intro page pageLog? failure status s hplain hproper
    have hsite : (app.site w).errorPage = Callback.plainErrorPage := hplain
    dsimp only [Site.ledgerBy]
    rw [Site.reportEdits_plain hsite]
    exact .of_edits hproper failure status
  have hreports {log : List Change} {r : Response} (h : Recorded Q {} log r)
      (hplain : app.errorPage = Callback.plainErrorPage) : PlainReports log := by
    rintro before failure status es rest rfl
    exact h.report hplain (Response.proper_empty.after _)
  have htells := hQ.tells_ledger (app.context request)
  let start : State ν := { context := app.context request, world := w }
  constructor
  · have hrecorded : Recorded Q {} (app.changes w request) (app.serve w request).1 := by
      unfold changes serve
      dsimp only
      cases app.routePath? (app.context request).path with
      | none => exact htells.settle (.ok false, start)
      | some path =>
        exact (w.published.recorded_dispatch htells path start).append (htells.settle _)
    exact ⟨hrecorded.written, hreports hrecorded, fun _ _ => App.exists_reported⟩
  · intro levels path s log hlog
    have hlogged := hQ.logged_page levels path s
    rw [hlog] at hlogged
    obtain ⟨r, world, hrecorded, hpage⟩ := hlogged
    exact ⟨r, world, hpage, hrecorded.written, hreports hrecorded⟩

/-- That nothing was found is reported after a filter has written, and does not show. -/
theorem App.serve_written_late :
    let app : App Empty := {}
    let greet : Callback Empty .filter := .edit (.write [104, 105]) <| .next fun _ => .done
    let w : World Empty := { published := { filters := [⟨none, greet⟩] } }
    let request : Request := { uri := { path := "/x" } }
    let r := (app.serve w request).1
    (∃ es, app.changes w request =
        [.edited (.write [104, 105]), .reported .notFound .notFound es] ∧
      (Response.after {} [.write [104, 105]]).after es = Response.after {} [.write [104, 105]]) ∧
    r.status = .ok ∧ r.body = [104, 105] := by
  intro app greet w request r
  obtain ⟨⟨hwritten, hreports, -⟩, -⟩ := App.serve_written app w request
  have hlog : ∃ es, app.changes w request =
      [.edited (.write [104, 105]), .reported .notFound .notFound es] := ⟨_, rfl⟩
  obtain ⟨es, hlog⟩ := hlog
  have hlate := (hreports rfl [.edited (.write [104, 105])] .notFound .notFound es [] hlog).late rfl
  have hr : r = Response.after {} [.write [104, 105]] := by
    have hedits : editsAll (app.changes w request) = .write [104, 105] :: es := by
      simp [hlog, editsAll, Change.edits]
    have heq := hwritten.eq
    rw [hedits] at heq
    exact heq.trans hlate
  exact ⟨⟨es, hlog, hlate⟩, by rw [hr]; rfl, by rw [hr]; rfl⟩

end Signpost
