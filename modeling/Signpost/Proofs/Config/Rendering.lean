import Signpost.Proofs.Dispatch.Composition
import Signpost.Proofs.Http.Response
import Signpost.Proofs.Pattern.Assigning
import Signpost.Proofs.Registration.Covering
import Signpost.Proofs.Registration.Installing
import Signpost.Proofs.Template

/-!
# Pages that say their own pattern

A pattern of literal text and captures is a template too, and it means the same as both: a template
puts back into the pattern what a match took out of the path (`Template.fill_parse_of_assigns`).
Therefore a page whose body is its own pattern answers a path with the path
(`Config.mirror_mirrors`).
-/

namespace Signpost

/-! ## Filling what was taken -/

namespace Template

/-- Filled with the values that a word gives to the captures, the text of a pattern without stars is
the word. -/
theorem fill_parse_of_assigns {s w : List Char} {values : List (String × String)}
    (h : Pattern.Assigns s w values) (hstar : '*' ∉ s) {vars : Vars}
    (hvars : ∀ e ∈ values, Vars.getOrEmpty vars e.1 = e.2) : (parse s).fill vars = w := by
  induction h with
  | nil => simp [parse, Text.cut?, fill, Piece.fill]
  | @literal c s w values hc _ ih =>
    rw [fill_parse_cons vars hc.2.1, ih (fun hmem => hstar (List.mem_cons_of_mem c hmem)) hvars]
  | segment | rest => exact absurd List.mem_cons_self hstar
  | @capture name s u w values hname _ _ ih =>
    obtain ⟨hvalue, hrest⟩ := List.forall_mem_cons.mp hvars
    rw [fill_parse_hole vars (Pattern.brace_not_mem_of_isName hname), hvalue, String.toList_ofList,
      ih (fun hmem => hstar (by simp [hmem])) hrest]

end Template

/-! ## Matches of canonical paths -/

namespace Pattern

variable {p : Pattern} {text path : String} {atoms : List Atom}

theorem normalize_exact_canonical (h : Path.Canonical text) :
    normalize .exact text.toList = text.toList := by
  by_cases hroot : text = "/"
  · subst hroot
    decide
  · exact normalize_canonical .exact h hroot

/-- A canonical path has no slashes to spare behind a word that is not empty. -/
theorem eq_of_append_slashes {w r : List Char} (h : Path.Canonical path)
    (hpath : path.toList = w ++ r) (hw : w ≠ []) (hr : Atom.Slashes r) : path.toList = w := by
  by_cases hroot : path = "/"
  · subst hroot
    cases w with
    | nil => exact absurd rfl hw
    | cons c w =>
      have hnil : w ++ r = [] := (List.cons.inj hpath).2.symm
      obtain ⟨rfl, rfl⟩ := List.append_eq_nil_iff.mp hnil
      exact hpath.trans (List.append_nil _)
  · have hslashes : r = List.replicate r.length '/' := List.eq_replicate_iff.mpr ⟨rfl, hr⟩
    exact h.eq_of_append_slashes hroot (hslashes ▸ hpath)

/-- The pattern matches a canonical path exactly if its text denotes the path, and the variables get
what one reading of the path gives to the captures. -/
theorem OfAtoms.matchVars?_canonical (h : p.OfAtoms .exact atoms)
    (hreading : Reading [] text.toList atoms) (hne : text.toList ≠ [])
    (hpath : Path.Canonical path) (vars : Vars) :
    (¬Denotes text.toList path.toList ∧ p.matchVars? path vars = none) ∨
      ∃ values written, Assigns text.toList path.toList values ∧ (values.map (·.1)).Nodup ∧
        p.matchVars? path vars = some written ∧
        ∀ key, written.get? key = (Dict.find? key values).or (vars.get? key) := by
  obtain ⟨source, hregex⟩ := h.regex_eq
  by_cases hleads : Atom.Leads Atom.Slashes atoms path.toList
  · obtain ⟨us, r, hpicks⟩ := Atom.exists_picks hleads
    obtain ⟨hdivides, hword, hr⟩ := hpicks.divides
    have hwords := hpicks.forall₂
    have hwhole : path.toList = us.flatten :=
      eq_of_append_slashes hpath hdivides (hreading.words_ne_nil hne hword) hr
    refine .inr ⟨Atom.values atoms us, _, ?_, ?_, matchVars?_of_picks hregex hpicks vars,
      get?_values hreading.named hwords vars⟩
    · rw [hwhole]
      exact hreading.assigns hwords
    · rw [Atom.map_fst_values hwords]
      exact hreading.named.captureNames_nodup.1
  · refine .inl ⟨fun hdenotes => hleads ?_, matchVars?_eq_none hregex hleads vars⟩
    exact ⟨path.toList, [], (List.append_nil _).symm, (hreading.denotes_iff _).mp hdenotes, nofun⟩

end Pattern

/-! ## The page -/

variable {ν : Type}

open Http (HeaderValue Method Status)

namespace Config

/-- The configuration with one page, which answers `GET` with its own pattern. -/
def mirror (text : String) (code : Nat) (contentType : String) : Config :=
  { pages := [{ route := "GET " ++ text, status := code, body := text, contentType }] }

theorem router_mirror {text contentType : String} {code : Nat} {status : Status} {page : Pattern}
    (hclean : Path.clean text = text) (hblank : ∀ c ∈ text.toList, Text.isBlank c = false)
    (hstatus : Status.ofCode? code = some status) (hpage : Pattern.compile .exact text = .ok page) :
    (mirror text code contentType).router = .ok (Router.ofPage page (Dict.empty.insert "GET"
      (.respond (ν := ν) status text (HeaderValue.ofText? contentType)))) := by
  have hne : text.toList ≠ [] := (Path.canonical_iff.mpr hclean).toList_ne_nil
  have hroute : RouteSpec.parse ("GET " ++ text) = { methods := ["GET"], pattern := text } := by
    have hparse := RouteSpec.parse_method_pattern Method.get hne hblank
    rw [hclean] at hparse
    exact hparse
  simp [router_eq, mirror, steps, tableSteps, Page.step?, hstatus, Step.installAll, Step.install,
    Router.handle_empty hroute hpage, Except.bind]

end Config

/-- Answering with a template adds it, filled with the variables, to the body. -/
theorem Callback.runAlone_respond (host : Host ν) (status : Status) (body : String)
    (contentType : Option HeaderValue) (s : State ν) :
    ∃ s' : State ν, (respond status body contentType).runAlone host s = (.ok (), s') ∧
      s'.context.response.body =
        s.context.response.body ++ Text.Utf8.encode (Template.expand s.context.vars body) ∧
      s'.context.vars = s.context.vars := by
  let bytes := Text.Utf8.encode (Template.expand s.context.vars body)
  cases contentType with
  | none =>
    refine ⟨_, rfl, ?_, rfl⟩
    refine (Http.Response.body_after _ [.commit status, .write bytes]).trans ?_
    simp [Http.Response.Edit.bytes, bytes]
  | some value =>
    refine ⟨_, rfl, ?_, rfl⟩
    refine (Http.Response.body_after _
      [.setHeader .contentType value, .commit status, .write bytes]).trans ?_
    simp [Http.Response.Edit.bytes, bytes]

theorem Route.serve_respond {s : State ν} (h : s.context.request.method = .get) (host : Host ν)
    (place : Place) (i : Nat) (status : Status) (body : String) (contentType : Option HeaderValue) :
    ∃ s' : State ν, serve host place i
        (Dict.empty.insert "GET" (.respond status body contentType)) s = (.ok true, s') ∧
      s'.context.response.body =
        s.context.response.body ++ Text.Utf8.encode (Template.expand s.context.vars body) ∧
      s'.context.vars = s.context.vars := by
  obtain ⟨s', hrun, hbody, hvars⟩ :=
    Callback.runAlone_respond host status body contentType (s.log (.serve place i))
  have hhandler : handler? (Dict.empty.insert "GET"
      (.respond (ν := ν) status body contentType)) s.context.request.method.name =
        some (.respond status body contentType) := by
    have hkey : String.ofList (upperAscii Method.get.name.toList) = "GET" := by decide
    rw [h, handler?, hkey, Dict.get?_insert, if_pos rfl, Option.some_or]
  refine ⟨s'.log (.served place i (.ok ())), ?_, hbody, hvars⟩
  rw [serve, hhandler]
  dsimp only
  rw [hrun]
  rfl

/-! ## What the page answers -/

namespace Config

/-- The router deals with a canonical path by saying the path, or misses it. It says every path that
the text becomes when values are put in for the captures, and where the captures end their segments,
the variables get these values. -/
structure Mirrors (router : Router ν) (text : String) (names : List String) : Prop where
  answer : ∀ host path s, Path.clean path = path → s.context.request.method = .get →
    router.dispatch host path s = (.ok false, s) ∨
      ∃ s', router.dispatch host path s = (.ok true, s') ∧
        s'.context.response.body = s.context.response.body ++ Text.Utf8.encode path
  exists_assigns : ∀ values : List (String × String), values.map (·.1) = names →
    (∀ e ∈ values, e.2 ≠ "" ∧ '/' ∉ e.2.toList) →
      ∃ path : String, Pattern.Assigns text.toList path.toList values
  substituted : ∀ values path, Pattern.Assigns text.toList path.toList values →
    Path.clean path = path → ∀ host s, s.context.request.method = .get →
      ∃ s', router.dispatch host path s = (.ok true, s') ∧
        s'.context.response.body = s.context.response.body ++ Text.Utf8.encode path ∧
        (Pattern.EndsSegments text.toList →
          ∀ key, s'.context.vars.get? key = (Dict.find? key values).or (s.context.vars.get? key))

section Page

variable {text path : String} {page : Pattern} {atoms : List Pattern.Atom} {s : State ν}

/-- A page alone that answers with its own pattern says the paths that the pattern denotes, with the
variables from one reading of the path, and misses others. -/
theorem dispatch_ofPage_respond (hpage : page.OfAtoms .exact atoms)
    (hreading : Pattern.Reading [] text.toList atoms) (hne : text.toList ≠ [])
    (hstar : '*' ∉ text.toList) (hpath : Path.Canonical path)
    (hmethod : s.context.request.method = .get) (host : Host ν) (status : Status)
    (contentType : Option HeaderValue) :
    (¬Pattern.Denotes text.toList path.toList ∧
        (Router.ofPage page (Dict.empty.insert "GET" (.respond status text contentType))).dispatch
          host path s = (.ok false, s)) ∨
      ∃ values s', Pattern.Assigns text.toList path.toList values ∧
        (Router.ofPage page (Dict.empty.insert "GET" (.respond status text contentType))).dispatch
          host path s = (.ok true, s') ∧
        s'.context.response.body = s.context.response.body ++ Text.Utf8.encode path ∧
        ∀ key, s'.context.vars.get? key =
          (Dict.find? key values).or (s.context.vars.get? key) := by
  rw [Router.dispatch_ofPage]
  rcases hpage.matchVars?_canonical hreading hne hpath s.context.vars with
    ⟨hnot, hmiss⟩ | ⟨values, written, hassigns, hnodup, hmatch, hwritten⟩
  · exact .inl ⟨hnot, by rw [hmiss]⟩
  · rw [hmatch]
    have hrequest : (s.setVars written).context.request.method = .get := hmethod
    obtain ⟨s', hserve, hbody, hvars⟩ :=
      Route.serve_respond hrequest host _ 0 status text contentType
    refine .inr ⟨values, s', hassigns, hserve, ?_, ?_⟩
    · have hfill : (Template.parse text.toList).fill written = path.toList := by
        refine Template.fill_parse_of_assigns hassigns hstar fun e he => ?_
        rw [Vars.getOrEmpty, hwritten, Dict.find?_eq_some_of_mem hnodup he]
        rfl
      rw [hbody, Template.expand]
      change _ ++ Text.Utf8.encode (String.ofList ((Template.parse text.toList).fill written)) = _
      rw [hfill, String.ofList_toList]
      rfl
    · intro key
      rw [hvars]
      exact hwritten key

end Page

/-- Match and render are inverse. Let the pattern be cleaned and made of literal text without blanks
and of captures with different names. Unless the machine for it is too large, the router with the
one page that answers with the pattern mirrors canonical paths. -/
theorem mirror_mirrors {text contentType : String} {code : Nat} {status : Status}
    (hclean : Path.clean text = text) (hblank : ∀ c ∈ text.toList, Text.isBlank c = false)
    (hplain : Pattern.Plain [] text.toList) (hstar : '*' ∉ text.toList)
    (hstatus : Status.ofCode? code = some status) :
    Pattern.compile .exact text = .error (.invalidRegex text .tooLarge) ∨
      ∃ (router : Router ν) (page : Pattern),
        (mirror text code contentType).router = .ok router ∧
        Pattern.compile .exact text = .ok page ∧ Mirrors router text page.names := by
  have hcanonical := Path.canonical_iff.mpr hclean
  obtain ⟨⟨atoms, hreading⟩, -⟩ := hplain.exists_reading
  have hnormalize := Pattern.normalize_exact_canonical hcanonical
  rcases (hnormalize.symm ▸ hreading).compile with hlarge | ⟨page, hpage, hatoms⟩
  · exact .inl hlarge
  refine .inr ⟨_, page, router_mirror hclean hblank hstatus hpage, hpage, ?_, ?_, ?_⟩
  · intro host path s hpath hmethod
    rcases dispatch_ofPage_respond hatoms hreading hcanonical.toList_ne_nil hstar
      (Path.canonical_iff.mpr hpath) hmethod host status _ with
      ⟨-, hmiss⟩ | ⟨values, s', -, hdispatch, hbody, -⟩
    · exact .inl hmiss
    · exact .inr ⟨s', hdispatch, hbody⟩
  · intro values hnames hvalues
    rw [hatoms.names_eq] at hnames
    obtain ⟨w, hw⟩ := hreading.exists_assigns hstar hnames fun e he =>
      ⟨fun hnil => (hvalues e he).1 (String.toList_eq_nil_iff.mp hnil), (hvalues e he).2⟩
    exact ⟨String.ofList w, by rwa [String.toList_ofList]⟩
  · intro values path hassigns hpath host s hmethod
    rcases dispatch_ofPage_respond hatoms hreading hcanonical.toList_ne_nil hstar
      (Path.canonical_iff.mpr hpath) hmethod host status _ with
      ⟨hnot, -⟩ | ⟨values', s', hassigns', hdispatch, hbody, hvars⟩
    · exact absurd hassigns.denotes hnot
    · refine ⟨s', hdispatch, hbody, fun hends => ?_⟩
      rwa [hassigns.unique hstar hends hassigns']

theorem mirror_mirrors_glued : Path.clean "/\x7ba\x7d-\x7bb\x7d/x" = "/\x7ba\x7d-\x7bb\x7d/x" ∧
    ∃ (router : Router Unit) (page : Pattern),
      (mirror "/\x7ba\x7d-\x7bb\x7d/x" 200 "text/plain").router = .ok router ∧
      Pattern.compile .exact "/\x7ba\x7d-\x7bb\x7d/x" = .ok page ∧
      Mirrors router "/\x7ba\x7d-\x7bb\x7d/x" page.names := by
  have hplain : Pattern.Plain [] "/\x7ba\x7d-\x7bb\x7d/x".toList := by
    have htext : "/\x7ba\x7d-\x7bb\x7d/x".toList =
        '/' :: '\x7b' :: (['a'] ++ '\x7d' :: '-' :: '\x7b' :: (['b'] ++ '\x7d' :: ['/', 'x'])) := by
      decide +kernel
    rw [htext]
    refine .literal (by decide) (.capture (by decide) (by decide) (.literal (by decide) ?_))
    refine .capture (by decide) (by decide) (.literal (by decide) ?_)
    exact .literal (by decide) .nil
  have hclean : Path.clean "/\x7ba\x7d-\x7bb\x7d/x" = "/\x7ba\x7d-\x7bb\x7d/x" := by
    decide +kernel
  have hblank : "/\x7ba\x7d-\x7bb\x7d/x".toList.all (!Text.isBlank ·) = true := by decide +kernel
  refine ⟨hclean, ?_⟩
  refine (mirror_mirrors hclean (by simpa using List.all_eq_true.mp hblank) hplain
    (by decide +kernel) rfl).resolve_left fun hlarge => ?_
  have hok : (Pattern.compile .exact "/\x7ba\x7d-\x7bb\x7d/x").toOption.isSome = true := by
    decide +kernel
  rw [hlarge] at hok
  cases hok

end Config

end Signpost
