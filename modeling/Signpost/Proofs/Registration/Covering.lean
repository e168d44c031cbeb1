import Signpost.Proofs.Dispatch.Run
import Signpost.Proofs.Pattern.Joining
import Signpost.Proofs.Registration.Installing
import Signpost.Proofs.RouteSpec

/-!
# Filters over routes of the same text

A filter may be registered with the text of a route to guard the route. The route cleans the text
like a path before it is compiled, while the filter only puts a slash at its start and drops those
at its end. The two come to the same pattern if the text is straight (`Pattern.Straight`): what the
filter makes of it is a canonical path. Then the filter is for every path that the route matches
(`Router.filter_covers_handle`). Otherwise it is of no use there: without sub-patterns it is for no
canonical path at all (`Pattern.Denotes.canonical`).
-/

namespace Signpost

variable {ν : Type}

/-! ## Elements of words -/

/-- No slashes stand at the end of a canonical path, unless it is the root. -/
theorem Path.Canonical.eq_of_append_slashes {path : String} {w : List Char} {n : Nat}
    (h : Canonical path) (hroot : path ≠ "/") (hpath : path.toList = w ++ List.replicate n '/') :
    path.toList = w := by
  cases n with
  | zero => rw [hpath, List.replicate_zero, List.append_nil]
  | succ n =>
    refine absurd ?_ (h.getLast?_ne hroot)
    rw [hpath, List.replicate_succ', ← List.append_assoc, List.getLast?_concat]

namespace Pattern

/-- The signs of a pattern that do not stand for themselves. -/
def IsSign (c : Char) : Prop := c = '*' ∨ c = '\x7b'

theorem isElement_of_isSign {piece : List Char} {c : Char} (hslash : '/' ∉ piece)
    (hmem : c ∈ piece) (hc : IsSign c) : Path.IsElement piece := by
  have hdot : c ≠ '.' := by rintro rfl; exact hc.elim (by decide) (by decide)
  refine ⟨?_, ?_, ?_, hslash⟩
  · exact List.ne_nil_of_mem hmem
  · rintro rfl
    exact hdot (List.mem_singleton.mp hmem)
  · rintro rfl
    rw [List.mem_cons, List.mem_singleton, or_self] at hmem
    exact hdot hmem

/-- What the pieces of a word, cut at its slashes, say about the pieces of the text that denotes
it. -/
structure Pieces (s w : List Char) : Prop where
  tail : (∀ e ∈ (Text.split '/' w).tail, Path.IsElement e) →
    ∀ e ∈ (Text.split '/' s).tail, Path.IsElement e
  head : (Text.split '/' s).head? = (Text.split '/' w).head? ∨
    ∃ piece c, (Text.split '/' s).head? = some piece ∧ c ∈ piece ∧ IsSign c

/-- A sign joins the first piece of the text, and its word leaves the later pieces of the whole word
where they were. -/
theorem Pieces.sign {c : Char} {t s u w : List Char} (hc : IsSign c) (hslash : '/' ∉ c :: t)
    (h : Pieces s w) : Pieces (c :: t ++ s) (u ++ w) := by
  obtain ⟨piece, pieces, hs⟩ := Text.exists_split_eq '/' s
  have hsplit := Text.split_append_of_not_mem hslash hs
  refine ⟨fun hw => ?_, .inr ⟨_, c, by rw [hsplit]; rfl, ?_, hc⟩⟩
  · have hrest := h.tail fun e he => hw e ((Text.tail_split_suffix '/' u w).mem he)
    rw [hsplit]
    rw [hs] at hrest
    exact hrest
  · exact List.mem_append_left _ List.mem_cons_self

theorem Denotes.pieces {s w : List Char} (h : Denotes s w) : Pieces s w := by
  induction h with
  | nil => exact ⟨fun hw => hw, .inl rfl⟩
  | @literal c s w hc _ ih =>
    obtain ⟨piece, pieces, hs⟩ := Text.exists_split_eq '/' s
    obtain ⟨piece', pieces', hw⟩ := Text.exists_split_eq '/' w
    obtain ⟨htail, hhead⟩ := ih
    rw [hs, hw] at htail hhead
    by_cases hslash : c = '/'
    · -- the first pieces end here, so that of the text is an element as that of the word is
      rw [hslash]
      refine ⟨fun helements => ?_, .inl rfl⟩
      rw [Text.split_cons_self, hs]
      rw [Text.split_cons_self, hw] at helements
      obtain ⟨hfirst, hrest⟩ := List.forall_mem_cons.mp helements
      refine List.forall_mem_cons.mpr ⟨?_, htail hrest⟩
      obtain heq | ⟨_, d, heq, hmem, hd⟩ := hhead
      · exact Option.some.inj heq ▸ hfirst
      · obtain rfl := Option.some.inj heq
        have hnot : '/' ∉ piece := Text.not_mem_of_mem_split (hs ▸ List.mem_cons_self)
        exact isElement_of_isSign hnot hmem hd
    · have hs' := Text.split_cons_of_ne hslash hs
      have hw' := Text.split_cons_of_ne hslash hw
      refine ⟨by rw [hs', hw']; exact htail, ?_⟩
      rw [hs', hw']
      obtain heq | ⟨_, d, heq, hmem, hd⟩ := hhead
      · obtain rfl := Option.some.inj heq
        exact .inl rfl
      · obtain rfl := Option.some.inj heq
        exact .inr ⟨_, d, rfl, List.mem_cons_of_mem c hmem, hd⟩
  | segment _ _ _ ih => exact ih.sign (t := []) (.inl rfl) (by decide)
  | rest _ _ ih => exact ih.sign (t := ['*']) (.inl rfl) (by decide)
  | @capture name s u w hname _ _ ih =>
    have hslash : '/' ∉ '\x7b' :: (name ++ ['\x7d']) := by
      intro hmem
      obtain hmem | hmem : '/' ∈ name ∨ '/' = '\x7d' := by simpa using hmem
      · exact absurd (isAlphanum_of_mem_of_isName hname '/' hmem) (by decide)
      · exact absurd hmem (by decide)
    have hpieces := ih.sign (u := u) (.inr rfl) hslash
    rwa [List.cons_append, List.append_assoc, List.singleton_append] at hpieces

/-- Only the empty text denotes the empty word. -/
theorem Denotes.eq_nil {s w : List Char} (h : Denotes s w) (hw : w = []) : s = [] := by
  cases h with
  | nil => rfl
  | literal => cases hw
  | segment _ hu | rest hu | capture _ hu =>
    exact absurd (List.append_eq_nil_iff.mp hw).1 hu.1

/-- If a text that begins with a slash denotes a canonical path, up to slashes at its end, it is
canonical itself. -/
theorem Denotes.canonical {s word : List Char} {n : Nat} {path : String}
    (h : Denotes ('/' :: s) word) (hpath : path.toList = word ++ List.replicate n '/')
    (hcanonical : Path.Canonical path) : Path.Canonical (String.ofList ('/' :: s)) := by
  obtain ⟨v, rfl, hv⟩ := (denotes_literal_iff (by decide)).mp h
  by_cases hroot : path = "/"
  · have hv' : v = [] := by
      have hlength := congrArg List.length hpath
      simp only [hroot, List.cons_append, List.length_cons, List.length_append] at hlength
      change 1 = _ at hlength
      exact List.length_eq_zero_iff.mp (by omega)
    obtain rfl := hv.eq_nil hv'
    exact ⟨[], nofun, rfl⟩
  · have hsplit : Text.split '/' ('/' :: v) = [] :: Path.elements ('/' :: v) := by
      have hall := hcanonical.toList_eq_flatMap hroot
      rw [hcanonical.eq_of_append_slashes hroot hpath] at hall
      conv_lhs => rw [hall]
      exact Path.split_flatMap fun _ => Path.isElement_of_mem_elements
    have hword : ∀ e ∈ Text.split '/' v, Path.IsElement e := by
      rw [Text.split_cons_self] at hsplit
      rw [(List.cons.inj hsplit).2]
      exact fun _ => Path.isElement_of_mem_elements
    have htext : ∀ e ∈ Text.split '/' s, Path.IsElement e := by
      have hpieces := h.pieces.tail
      simp only [Text.split, if_true, List.tail_cons] at hpieces
      exact hpieces hword
    refine ⟨Text.split '/' s, htext, ?_⟩
    rw [Path.ofElements_eq_flatMap (Text.split_ne_nil '/' s), Text.flatMap_split]

/-! ## Straight texts -/

/-- A slash put at the start and those at the end dropped, the text is a canonical path. -/
def Straight (text : String) : Prop :=
  Path.Canonical (String.ofList (normalize .exact text.toList))

theorem elements_rooted (text : List Char) : Path.elements (rooted text) = Path.elements text := by
  unfold rooted
  split
  · rfl
  · rw [Path.elements_cons_slash]
    rfl

theorem exists_eq_cons_of_isStem {text stem : List Char} (h : IsStem text stem) :
    ∃ s, stem = '/' :: s := by
  have hrooted : ∃ t, rooted text = '/' :: t := by
    unfold rooted
    split
    · next hhead => exact List.head?_eq_some_iff.mp hhead
    · exact ⟨text, rfl⟩
  cases h with
  | root => exact ⟨[], rfl⟩
  | body hbody hne =>
    obtain ⟨t, ht⟩ := hrooted
    obtain ⟨c, s, rfl⟩ := List.exists_cons_of_ne_nil hne
    rw [ht, List.cons_append] at hbody
    exact ⟨s, by rw [(List.cons.inj hbody).1]⟩

theorem elements_append_slashes (s : List Char) (n : Nat) :
    Path.elements (s ++ List.replicate n '/') = Path.elements s := by
  induction n with
  | zero => rw [List.replicate_zero, List.append_nil]
  | succ n ih =>
    rw [List.replicate_succ', ← List.append_assoc, Path.elements, Text.split_append,
      Path.walk_append]
    change Path.walk (Path.elements _).reverse [[]] = _
    rw [Path.walk_nil_cons, Path.walk, List.reverse_reverse, ih]

theorem elements_of_isStem {text stem : List Char} (h : IsStem text stem) :
    Path.elements stem = Path.elements text := by
  cases h with
  | @root n h =>
    have helements := elements_append_slashes [] n
    rw [List.nil_append, ← h, elements_rooted] at helements
    rw [helements]
    rfl
  | body h => rw [← elements_rooted text, h, elements_append_slashes]

theorem Straight.normalize_eq {text : String} (h : Straight text) :
    normalize .exact (Path.clean text).toList = normalize .exact text.toList := by
  have htext := h.toList_eq
  rw [String.toList_ofList, elements_of_isStem (isStem_normalize _), ← Path.toList_clean] at htext
  rw [htext]
  by_cases hroot : Path.clean text = "/"
  · rw [hroot]
    decide
  · exact normalize_canonical .exact (Path.canonical_clean text) hroot

/-! ## Compiled patterns -/

/-- The regular expression of a pattern depends on the normalized text only. -/
theorem regex_eq_of_normalize_eq {text text' : String} {p p' : Pattern}
    (h : normalize .exact text.toList = normalize .exact text'.toList)
    (hp : compile .exact text = .ok p) (hp' : compile .exact text' = .ok p') :
    p.regex = p'.regex := by
  unfold compile at hp hp'
  rw [h] at hp
  split at hp
  · cases hp
  · next ts hts =>
    simp only [hts] at hp'
    split at hp
    · cases hp
    · next regex hregex =>
      simp only [hregex] at hp'
      cases hp
      cases hp'
      rfl

end Pattern

/-! ## A filter and a route -/

namespace Router

variable {router guarded handled : Router ν} {text : String} {filter : Callback ν .filter}
  {handler : Callback ν .handler}

/-- The filter that is added has no pattern if the text is empty, and else the pattern of the
text. -/
theorem filter_eq_ok (h : router.filter text filter = .ok guarded) :
    ∃ pattern, guarded = { router with filters := router.filters ++ [⟨pattern, filter⟩] } ∧
      ((text = "" ∧ pattern = none) ∨
        ∃ compiled, pattern = some compiled ∧ Pattern.compile .exact text = .ok compiled) := by
  unfold Router.filter at h
  dsimp only at h
  split at h
  · next hempty =>
    exact ⟨none, (Except.ok.inj h).symm, .inl ⟨String.isEmpty_iff.mp hempty, rfl⟩⟩
  · split at h
    · cases h
    · next compiled hcompile =>
      exact ⟨some compiled, (Except.ok.inj h).symm, .inr ⟨compiled, rfl, hcompile⟩⟩

/-- A filter and a handler with the same text without blanks: if the text is straight, the filter
is for every path that the route of the handler matches. If it is not and has no sub-patterns, the
filter is for no path that cleaning leaves alone. All routers that registrations publish are
compiled (`Router.compiled_registerAll`). -/
theorem filter_covers_handle (hcompiled : router.Compiled)
    (hblank : ∀ c ∈ text.toList, Text.isBlank c = false)
    (hfilter : router.filter text filter = .ok guarded)
    (hhandle : router.handle text handler = .ok handled) :
    ∃ guard, guarded = { router with filters := router.filters ++ [guard] } ∧
      guard.callback = filter ∧ handled.Serves (Path.clean text) anyMethod handler ∧
      (Pattern.Straight text → ∀ pattern handlers, .page pattern handlers ∈ handled.routes →
        pattern.text = Path.clean text → ∀ path, pattern.isMatch path = true →
          guard.applies path = true) ∧
      (¬Pattern.Straight text → Pattern.Plain [] text.toList → ∀ path, Path.clean path = path →
        guard.applies path = false) := by
  have hparse := RouteSpec.parse_of_forall hblank
  have hserves : handled.Serves (Path.clean text) anyMethod handler :=
    (serves_handle hhandle _ _ _).mpr (.inr (by simp [hparse]))
  obtain ⟨pattern, rfl, ⟨rfl, rfl⟩ | ⟨own, rfl, hown⟩⟩ := filter_eq_ok hfilter
  · refine ⟨_, rfl, rfl, hserves, fun _ _ _ _ _ _ _ => rfl, fun hcrooked => absurd ?_ hcrooked⟩
    exact ⟨[], nofun, by decide⟩
  · refine ⟨_, rfl, rfl, hserves, ?_, ?_⟩
    · intro hstraight pattern handlers hmem htext path hmatch
      have hcompile := hcompiled.handle hhandle pattern handlers hmem
      rw [htext] at hcompile
      have hregex : own.regex = pattern.regex :=
        Pattern.regex_eq_of_normalize_eq hstraight.normalize_eq.symm hown hcompile
      change own.isMatch path = true
      rwa [Pattern.isMatch, hregex]
    · intro hcrooked hplain path hpath
      refine Bool.eq_false_iff.mpr fun happlies => hcrooked ?_
      obtain ⟨word, n, heq, hword⟩ := (Pattern.isMatch_iff_denotes hplain hown path).mp happlies
      obtain ⟨s, hs⟩ := Pattern.exists_eq_cons_of_isStem (Pattern.isStem_normalize text.toList)
      rw [Pattern.Straight, hs]
      exact (hs ▸ hword).canonical heq (Path.canonical_iff.mpr hpath)

theorem exists_filter_eq {compiled : Pattern} (hne : text ≠ "")
    (hcompile : Pattern.compile .exact text = .ok compiled) (router : Router ν)
    (filter : Callback ν .filter) : router.filter text filter =
      .ok { router with filters := router.filters ++ [⟨some compiled, filter⟩] } := by
  have hempty : text.isEmpty = false := Bool.eq_false_iff.mpr (mt String.isEmpty_iff.mp hne)
  simp [Router.filter, hempty, hcompile]

/-- The first handler of a router is refused only if its pattern does not compile. -/
theorem handle_first (hblank : ∀ c ∈ text.toList, Text.isBlank c = false) {pattern : Pattern}
    (hcompile : Pattern.compile .exact (Path.clean text) = .ok pattern)
    (handler : Callback ν .handler) : ({} : Router ν).handle text handler =
      .ok { routes := [.page pattern (Dict.empty.insert anyMethod handler)] } := by
  simp only [Router.handle, RouteSpec.parse_of_forall hblank, Route.rebind, Route.create, hcompile]
  rfl

theorem filter_covers_handle_capture :
    let text := "u/\x7bid\x7d//"
    let capture := "/u/\x7bid\x7d"
    ({} : Router Empty).Compiled ∧ (∀ c ∈ text.toList, Text.isBlank c = false) ∧
      Pattern.Straight text ∧ ∃ guard handled,
        ({} : Router Empty).filter text .done = .ok { filters := [guard] } ∧
        ({} : Router Empty).handle text .done = .ok handled ∧
        handled.Serves capture anyMethod .done ∧
        ∀ pattern handlers, .page pattern handlers ∈ handled.routes → pattern.text = capture →
          ∀ path, pattern.isMatch path = true → guard.applies path = true := by
  intro text capture
  have hblank : ∀ c ∈ text.toList, Text.isBlank c = false :=
    List.forall_iff_forall_mem.mp (by decide)
  have hclean : Path.clean text = capture := by decide +kernel
  have hstraight : Pattern.Straight text := by
    refine Path.canonical_iff.mpr ?_
    decide +kernel
  have hcompiled : ({} : Router Empty).Compiled := lasting_compiled.empty
  obtain ⟨own, hown⟩ : ∃ own, Pattern.compile .exact text = .ok own :=
    Pattern.exists_compile_of_isSome (by decide +kernel)
  obtain ⟨pattern, hpattern⟩ : ∃ pattern, Pattern.compile .exact (Path.clean text) = .ok pattern :=
    Pattern.exists_compile_of_isSome (by decide +kernel)
  have hfilter := exists_filter_eq (by decide) hown {} (.done : Callback Empty .filter)
  have hhandle := handle_first hblank hpattern (.done : Callback Empty .handler)
  obtain ⟨guard, hguarded, -, hserves, hcovers, -⟩ :=
    filter_covers_handle hcompiled hblank hfilter hhandle
  rw [hclean] at hserves hcovers
  obtain rfl := List.singleton_inj.mp (Router.mk.inj hguarded).1
  exact ⟨hcompiled, hblank, hstraight, _, _, hfilter, hhandle, hserves, hcovers hstraight⟩

/-- With a slash too many, the filter misses the path of its route. -/
theorem filter_not_covers_handle :
    let text := "//admin"
    (∀ c ∈ text.toList, Text.isBlank c = false) ∧ Path.clean "/admin" = "/admin" ∧
      ∃ guard pattern handlers,
        ({} : Router Empty).filter text .done = .ok { filters := [guard] } ∧
        ({} : Router Empty).handle text .done = .ok { routes := [.page pattern handlers] } ∧
        pattern.isMatch "/admin" = true ∧ guard.applies "/admin" = false := by
  intro text
  have hblank : ∀ c ∈ text.toList, Text.isBlank c = false :=
    List.forall_iff_forall_mem.mp (by decide)
  have hliteral : ∀ c ∈ text.toList, c ≠ '*' ∧ c ≠ '\x7b' ∧ c ≠ '\x7d' :=
    List.forall_iff_forall_mem.mp (by decide)
  have hcleaned : ∀ c ∈ "/admin".toList, c ≠ '*' ∧ c ≠ '\x7b' ∧ c ≠ '\x7d' :=
    List.forall_iff_forall_mem.mp (by decide)
  obtain ⟨own, hown⟩ : ∃ own, Pattern.compile .exact text = .ok own :=
    Pattern.exists_compile_of_isSome (by decide +kernel)
  have hclean : Path.clean text = "/admin" := by decide +kernel
  obtain ⟨pattern, hpattern⟩ : ∃ pattern, Pattern.compile .exact "/admin" = .ok pattern :=
    Pattern.exists_compile_of_isSome (by decide +kernel)
  refine ⟨hblank, by decide +kernel, _, _, _, exists_filter_eq (by decide) hown _ _,
    handle_first hblank (hclean ▸ hpattern) _, ?_, ?_⟩
  · refine (Pattern.isMatch_iff_of_literal hcleaned hpattern _).mpr ⟨0, ?_⟩
    decide +kernel
  · refine Bool.eq_false_iff.mpr fun happlies => ?_
    obtain ⟨n, hpath⟩ := (Pattern.isMatch_iff_of_literal hliteral hown _).mp happlies
    have hstem : Pattern.normalize .exact text.toList = "//admin".toList := by decide +kernel
    have hlength := congrArg List.length hpath
    rw [hstem, List.length_append] at hlength
    change 6 = 7 + _ at hlength
    omega

end Router

end Signpost
