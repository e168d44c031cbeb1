import Signpost.Proofs.Dispatch.Including
import Signpost.Proofs.Http.Response
import Signpost.Proofs.Path.Query
import Signpost.Proofs.Text.Utf8
import Signpost.Redirect

/-!
# Redirections below the base path

An include cleans the path of what it asks for and leaves the query alone
(`Context.includeUri_eq_resolve`). A redirection cleans all of its location. So it may lead
elsewhere than an include of the same location; `Callback.redirect_location` says when it does not.
-/

namespace Signpost

open Http (HeaderName HeaderValue Response Status)

/-- An include of a path that does not lead above the base path leaves the query alone. -/
theorem Context.includeUri_eq_resolve (c : Context) {location : String}
    (h : Path.Stays 0 (Text.split '/' (location.toList.takeWhile (· != '?')))) :
    c.includeUri location = Path.resolve c.basePath location := by
  unfold includeUri includeTarget Path.resolve
  cases hcut : Text.cut? '?' location.toList with
  | none =>
    have hmark := Text.cut?_eq_none_iff.mp hcut
    have hpath : location.toList.takeWhile (· != '?') = location.toList :=
      List.takeWhile_eq_self_iff.mpr fun c hc => bne_iff_ne.mpr (ne_of_mem_of_not_mem hc hmark)
    rw [hpath] at h
    change Path.join c.basePath (Path.join "/" location) ++ "" = _
    rw [Path.join_join_of_stays c.basePath h, String.append_empty]
  | some parts =>
    obtain ⟨path, query⟩ := parts
    rw [Text.takeWhile_eq_of_cut? hcut, ← String.toList_ofList (l := path)] at h
    change Path.join c.basePath (Path.join "/" (String.ofList path)) ++
      ("?" ++ String.ofList query) = Path.join c.basePath (String.ofList path) ++ "?" ++ _
    rw [Path.join_join_of_stays c.basePath h, String.append_assoc]

namespace Callback

variable {ν : Type} {role : Role}

theorem runAlone_redirect (host : Host ν) (s : State ν) {location target : String}
    {value : HeaderValue} (status : Status) (k : Except Failure Unit → Callback ν role)
    (htarget : redirectTarget s.context.basePath location = .ok target)
    (hvalue : HeaderValue.ofText? target = some value) :
    (redirect location status k).runAlone host s =
      (k (.ok ())).runAlone host { s with
        context := (s.context.edit (.setHeader .location value)).edit (.commit status) } := by
  simp only [runAlone, redirect, run, htarget, hvalue]

/-- A redirection to a path below the base path goes where cleaning all of the location leads to.
This is where an include of the same location looks, as long as its query survives that, and only
then. -/
theorem redirect_location (host : Host ν) (s s' : State ν) (location : String) (status : Status)
    (hrelative : Url.parse location = .error .noScheme)
    (hredirect : (redirect location status finish : Callback ν role).runAlone host s =
      (.ok (), s')) :
    let base := s.context.basePath
    ∃ value, s'.context.response.headers.get? HeaderName.location.text = some value ∧
      value.bytes = Text.Utf8.encode (Path.join base location) ∧
      (value.bytes = Text.Utf8.encode (Path.resolve base location) ↔
        Path.QueryKept base location) ∧
      (Path.Stays 0 (Text.split '/' (location.toList.takeWhile (· != '?'))) →
        s.context.includeUri location = Path.resolve base location) := by
  intro base
  have htarget : redirectTarget base location = .ok (Path.join base location) := by
    rw [redirectTarget, hrelative]
  cases hvalue : HeaderValue.ofText? (Path.join base location) with
  | none =>
    have hrefused : (redirect location status finish : Callback ν role).runAlone host s =
        (.error .headerValue, s) := by
      rw [redirect, runAlone, run, htarget]
      dsimp only
      rw [hvalue]
      rfl
    cases hrefused.symm.trans hredirect
  | some value =>
    rw [runAlone_redirect host s status finish htarget hvalue] at hredirect
    obtain rfl := (Prod.mk.inj hredirect).2
    have hbytes : value.bytes = Text.Utf8.encode (Path.join base location) :=
      HeaderValue.bytes_of_ofText? hvalue
    refine ⟨value, ?_, hbytes, ?_, s.context.includeUri_eq_resolve⟩
    · change ((s.context.response.setHeader .location value).commit status).headers.get? _ = _
      rw [Response.headers_commit, Response.setHeader, Dict.get?_insert, if_pos rfl]
    · rw [hbytes, Text.Utf8.encode_inj, Path.join_eq_resolve_iff]

theorem redirect_location_query :
    let host : Host Empty := { report := fun _ _ s => s, page := fun _ s => (.ok .ok, s) }
    let s : State Empty :=
      { context := { request := { uri := { path := "/app" } }, basePath := "/app" }, world := {} }
    let found : Status := ⟨302, by decide, by decide⟩
    let answer : Callback Empty .handler := redirect "./login?next=/a/b" found finish
    ∃ s' value, answer.runAlone host s = (.ok (), s') ∧
      s'.context.response.headers.get? "location" = some value ∧
      value.bytes = Text.Utf8.encode "/app/login?next=/a/b" := by
  intro host s found answer
  have hrelative : Url.parse "./login?next=/a/b" = .error .noScheme := by decide +kernel
  have htarget : redirectTarget "/app" "./login?next=/a/b" = .ok "/app/login?next=/a/b" := by
    decide +kernel
  obtain ⟨value, hvalue⟩ : ∃ value, HeaderValue.ofText? "/app/login?next=/a/b" = some value :=
    Option.isSome_iff_exists.mp (by decide +kernel)
  obtain ⟨s', hrun⟩ : ∃ s', answer.runAlone host s = (.ok (), s') :=
    ⟨_, runAlone_redirect host s found finish htarget hvalue⟩
  obtain ⟨value, hget, -, hkept, -⟩ := redirect_location host s s' _ _ hrelative hrun
  have hresolve : Path.resolve "/app" "./login?next=/a/b" = "/app/login?next=/a/b" := by
    decide +kernel
  refine ⟨s', value, hrun, hget, hresolve ▸ hkept.mpr ?_⟩
  decide +kernel

/-- The query of a redirection loses a slash that the query of an include keeps. -/
theorem redirect_location_cleaned :
    let host : Host Empty := { report := fun _ _ s => s, page := fun _ s => (.ok .ok, s) }
    let s : State Empty :=
      { context := { request := { uri := { path := "/app" } }, basePath := "/app" }, world := {} }
    let found : Status := ⟨302, by decide, by decide⟩
    let answer : Callback Empty .handler := redirect "login?next=/a//b" found finish
    Url.parse "login?next=/a//b" = .error .noScheme ∧
      (answer.runAlone host s).1 = .ok () ∧
      ((answer.runAlone host s).2.context.response.headers.get? "location").map (·.bytes) =
        some (Text.Utf8.encode "/app/login?next=/a/b") ∧
      Path.resolve "/app" "login?next=/a//b" = "/app/login?next=/a//b" ∧
      s.context.includeUri "login?next=/a//b" = "/app/login?next=/a//b" := by
  refine ⟨by decide +kernel, rfl, by decide +kernel, by decide +kernel, by decide +kernel⟩

end Callback

end Signpost
