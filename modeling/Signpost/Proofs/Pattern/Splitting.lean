import Signpost.Proofs.Pattern.Assigning

/-!
# How a mount splits a path

A mount splits a path at the boundary of a segment: before it stands a word that the trunk of the
pattern denotes, and behind it nothing, or a slash and what follows (`Pattern.Splits`). The mount
matches the paths that can be split, and no others; its answer and the variables it writes are those
of one split (`Pattern.compile_mount_splits`). Without `**` there is only one
(`Pattern.Splits.unique`).
-/

namespace Signpost

namespace Pattern

/-! ## Trunks -/

/-- The trunk of a text: rooted, and without the slashes at its end. That of the root is empty. -/
def IsTrunk (text trunk : List Char) : Prop :=
  trunk.getLast? ≠ some '/' ∧ ∃ n, rooted text = trunk ++ List.replicate n '/'

theorem isTrunk_normalize (text : List Char) : IsTrunk text (normalize .mount text) := by
  have hnormalize : normalize .mount text = dropSlashes (rooted text) := by
    simp [normalize, rooted]
  rw [hnormalize]
  exact ⟨getLast?_dropSlashes_ne _, eq_dropSlashes_append _⟩

namespace IsTrunk

variable {text trunk : List Char}

theorem plain {names : List (List Char)} (h : IsTrunk text trunk) (hplain : Plain names text) :
    Plain names trunk := by
  obtain ⟨-, n, hrooted⟩ := h
  apply Plain.of_append_slashes
  rw [← hrooted]
  exact hplain.rooted

/-- The stars of a trunk are those of the text. -/
theorem stars_isInfix (h : IsTrunk text trunk) (hstars : ['*', '*'] <:+: trunk) :
    ['*', '*'] <:+: text := by
  obtain ⟨-, n, hrooted⟩ := h
  have hinfix : ['*', '*'] <:+: rooted text := by
    rw [hrooted]
    exact hstars.trans (List.prefix_append trunk _).isInfix
  unfold rooted at hinfix
  split at hinfix
  · exact hinfix
  · rcases List.infix_cons_iff.mp hinfix with hprefix | hinfix
    · -- the slash that was put at the start is not a star
      obtain ⟨t, ht⟩ := hprefix
      cases ht
    · exact hinfix

end IsTrunk

/-! ## Splits -/

/-- The path is a word that the trunk denotes and a rest behind it, which is empty or begins with a
slash. -/
structure Splits (trunk : List Char) (path : String) (word : List Char) (rest : String) : Prop where
  path_eq : path.toList = word ++ rest.toList
  denotes : Denotes trunk word
  boundary : Path.IsRest rest

section Splits

variable {names : List (List Char)} {trunk word : List Char} {path rest : String}
  {atoms : List Atom}

/-- On one line, an empty rest or one that begins with a slash is what can stand behind a mount. -/
theorem Atom.suffix_of_isRest (h : Path.IsRest rest) (hfeed : '\n' ∉ rest.toList) :
    Suffix rest.toList := by
  rcases h with rfl | h
  · exact .inl rfl
  · obtain ⟨t, ht⟩ := List.head?_eq_some_iff.mp h
    rw [ht] at hfeed ⊢
    exact .inr ⟨t, rfl, fun hmem => hfeed (List.mem_cons_of_mem _ hmem)⟩

theorem Atom.Suffix.isRest {r : List Char} (h : Suffix r) : Path.IsRest (String.ofList r) := by
  rcases h.eq_nil_or with rfl | hhead
  · exact .inl rfl
  · exact .inr (by rwa [String.toList_ofList])

theorem Splits.leads (h : Splits trunk path word rest) (hreading : Reading names trunk atoms)
    (hfeed : '\n' ∉ path.toList) : Atom.Leads Atom.Suffix atoms path.toList := by
  refine ⟨word, rest.toList, h.path_eq, (hreading.denotes_iff word).mp h.denotes, ?_⟩
  apply Atom.suffix_of_isRest h.boundary
  intro hmem
  apply hfeed
  rw [h.path_eq]
  exact List.mem_append_right word hmem

/-- The words that the atoms of a trunk pick are a split. -/
theorem Atom.Picks.splits {us : List (List Char)} {r : List Char}
    (h : Picks Suffix atoms path.toList us r) (hreading : Reading names trunk atoms) :
    Splits trunk path us.flatten (String.ofList r) := by
  obtain ⟨hpath, hword, hr⟩ := h.divides
  exact ⟨by rw [String.toList_ofList, hpath], (hreading.denotes_iff _).mpr hword, hr.isRest⟩

/-- Without `**`, a path is split in one way only. -/
theorem Splits.unique (h : Splits trunk path word rest) {word' : List Char} {rest' : String}
    (h' : Splits trunk path word' rest') (hreading : Reading names trunk atoms)
    (hstars : ¬['*', '*'] <:+: trunk) : word = word' ∧ rest = rest' := by
  have hrest : .rest ∉ atoms := fun hmem => hstars (hreading.rest_mem hmem)
  have hpath : word ++ rest.toList = word' ++ rest'.toList := h.path_eq.symm.trans h'.path_eq
  -- both words have the slashes that are written in the trunk
  have hcount : word.count '/' = word'.count '/' := by
    rw [Atom.count_slash_eq ((hreading.denotes_iff word).mp h.denotes) hrest,
      Atom.count_slash_eq ((hreading.denotes_iff word').mp h'.denotes) hrest]
  have hboundary : ∀ {r : String}, Path.IsRest r → r.toList = [] ∨ r.toList.head? = some '/' := by
    intro r hr
    exact hr.imp_left fun hnil => by rw [hnil, String.toList_empty]
  have hsame : rest.toList = rest'.toList :=
    Atom.rest_eq_of_count_eq hpath hcount (hboundary h.boundary) (hboundary h'.boundary)
  rw [hsame] at hpath
  exact ⟨List.append_cancel_right hpath, String.toList_inj.mp hsame⟩

end Splits

/-! ## What a mount answers -/

/-- The variables after a mount has been tried on the path. A miss leaves them as they are. -/
def triedVars (p : Pattern) (path : String) (vars : Vars) : Vars :=
  ((p.matchPrefix? path vars).map (·.2)).getD vars

/-- The mount matches the path if it can be split. Then its answer is the cleaned rest of one split,
whatever the variables are, and the names of its captures have the values that the word of the split
gives them, while other variables are kept. -/
structure SplitsAt (p : Pattern) (trunk : List Char) (path : String) : Prop where
  isSome_iff : ∀ vars, (p.matchPrefix? path vars).isSome = true ↔
    ∃ word rest, Splits trunk path word rest
  hit : ∀ word rest, Splits trunk path word rest → ∃ word rest values,
    Splits trunk path word rest ∧ Assigns trunk word values ∧ values.map (·.1) = p.names ∧
      ∀ vars, (p.matchPrefix? path vars).map (·.1) = some (Path.clean rest) ∧
        ∀ key, (p.triedVars path vars).get? key = (Dict.find? key values).or (vars.get? key)
  miss : ∀ vars, p.matchPrefix? path vars = none → p.triedVars path vars = vars

variable {p : Pattern} {trunk : List Char} {atoms : List Atom} {path : String}

theorem OfAtoms.matchPrefix?_eq (h : p.OfAtoms .mount atoms) {us : List (List Char)} {r : List Char}
    (hpicks : Atom.Picks Atom.Suffix atoms path.toList us r) (vars : Vars) :
    p.matchPrefix? path vars = some (Path.clean (String.ofList r),
      (Atom.values atoms us).foldl (fun d e => d.insert e.1 e.2) vars) := by
  obtain ⟨source, hregex⟩ := h.regex_eq
  exact matchPrefix?_of_picks h.mode_eq hregex hpicks vars

theorem OfAtoms.splitsAt (h : p.OfAtoms .mount atoms) (hreading : Reading [] trunk atoms)
    (hfeed : '\n' ∉ path.toList) : p.SplitsAt trunk path := by
  refine ⟨fun vars => ⟨fun hsome => ?_, ?_⟩, fun word rest hsplits => ?_, fun vars hnone => ?_⟩
  · by_cases hleads : Atom.Leads Atom.Suffix atoms path.toList
    · obtain ⟨us, r, hpicks⟩ := Atom.exists_picks hleads
      exact ⟨_, _, hpicks.splits hreading⟩
    · obtain ⟨source, hregex⟩ := h.regex_eq
      rw [matchPrefix?_eq_none hregex hleads] at hsome
      cases hsome
  · rintro ⟨word, rest, hsplits⟩
    obtain ⟨us, r, hpicks⟩ := Atom.exists_picks (hsplits.leads hreading hfeed)
    rw [h.matchPrefix?_eq hpicks]
    rfl
  · obtain ⟨us, r, hpicks⟩ := Atom.exists_picks (hsplits.leads hreading hfeed)
    have hwords : List.Forall₂ Atom.Denotes atoms us := hpicks.forall₂
    have hnames : (Atom.values atoms us).map (·.1) = p.names := by
      rw [Atom.map_fst_values hwords, h.names_eq]
    refine ⟨us.flatten, String.ofList r, Atom.values atoms us, hpicks.splits hreading,
      hreading.assigns hwords, hnames, fun vars => ?_⟩
    rw [triedVars, h.matchPrefix?_eq hpicks]
    exact ⟨rfl, get?_values hreading.named hwords vars⟩
  · rw [triedVars, hnone]
    rfl

/-- A mount that is built from literal characters, stars and captures compiles, unless the machine
for it is too large, and on a path without a line feed it answers with a split of the path. Without
`**` there is no other split. -/
theorem compile_mount_splits (text : String) (h : Plain [] text.toList) :
    IsTrunk text.toList (normalize .mount text.toList) ∧
      (compile .mount text = .error (.invalidRegex text .tooLarge) ∨
        ∃ p, compile .mount text = .ok p ∧ ∀ path : String, '\n' ∉ path.toList →
          p.SplitsAt (normalize .mount text.toList) path) ∧
      (¬['*', '*'] <:+: text.toList → ∀ path word rest word' rest',
        Splits (normalize .mount text.toList) path word rest →
        Splits (normalize .mount text.toList) path word' rest' → word = word' ∧ rest = rest') := by
  have htrunk := isTrunk_normalize text.toList
  obtain ⟨⟨atoms, hreading⟩, -⟩ := (htrunk.plain h).exists_reading
  refine ⟨htrunk, ?_, ?_⟩
  · obtain hlarge | ⟨p, hp, hatoms⟩ := hreading.compile
    · exact .inl hlarge
    · exact .inr ⟨p, hp, fun path hfeed => hatoms.splitsAt hreading hfeed⟩
  · intro hstars path word rest word' rest' hsplits hsplits'
    exact hsplits.unique hsplits' hreading fun htrunkStars =>
      hstars (htrunk.stars_isInfix htrunkStars)

theorem compile_mount_splits_doubled : Plain [] "/u/\x7bid\x7d/".toList ∧
    ∃ p, compile .mount "/u/\x7bid\x7d/" = .ok p ∧
      (p.matchPrefix? "/u/7//x" Dict.empty).map (·.1) = some "/x" ∧
      (p.triedVars "/u/7//x" Dict.empty).get? "id" = some "7" := by
  have htext : "/u/\x7bid\x7d/".toList =
      '/' :: 'u' :: '/' :: '\x7b' :: (['i', 'd'] ++ '\x7d' :: ['/']) := by decide +kernel
  have hplain : Plain [] "/u/\x7bid\x7d/".toList := by
    rw [htext]
    refine .literal (by decide) (.literal (by decide) (.literal (by decide) ?_))
    exact .capture (by decide) (by decide) (.literal (by decide) .nil)
  have htrunk : normalize .mount "/u/\x7bid\x7d/".toList =
      '/' :: 'u' :: '/' :: '\x7b' :: (['i', 'd'] ++ '\x7d' :: []) := by decide +kernel
  have hassigns : Assigns (normalize .mount "/u/\x7bid\x7d/".toList) "/u/7".toList
      [("id", "7")] := by
    rw [htrunk]
    refine .literal (by decide) (.literal (by decide) (.literal (by decide) ?_))
    exact .capture (u := ['7']) (by decide) (by decide) .nil
  have hends : EndsSegments (normalize .mount "/u/\x7bid\x7d/".toList) := by
    rw [htrunk]
    intro t ht
    exact .inl (by simpa [List.suffix_cons_iff] using ht)
  have hsplits : Splits (normalize .mount "/u/\x7bid\x7d/".toList) "/u/7//x" "/u/7".toList "//x" :=
    ⟨by decide +kernel, hassigns.denotes, .inr (by decide +kernel)⟩
  refine ⟨hplain, ?_⟩
  obtain ⟨-, hlarge | ⟨p, hp, hsplit⟩, hunique⟩ := compile_mount_splits "/u/\x7bid\x7d/" hplain
  · have hsome : (compile .mount "/u/\x7bid\x7d/").toOption.isSome = true := by decide +kernel
    rw [hlarge] at hsome
    exact absurd hsome (by decide)
  · obtain ⟨word, rest, values, hother, hvalues, -, hanswer⟩ :=
      (hsplit "/u/7//x" (by decide +kernel)).hit _ _ hsplits
    obtain ⟨rfl, rfl⟩ := hunique (by decide +kernel) _ _ _ _ _ hsplits hother
    obtain rfl := hassigns.unique (by decide +kernel) hends hvalues
    obtain ⟨hsuffix, hvars⟩ := hanswer Dict.empty
    refine ⟨p, hp, ?_, hvars "id"⟩
    rw [hsuffix]
    decide +kernel

end Pattern

end Signpost
