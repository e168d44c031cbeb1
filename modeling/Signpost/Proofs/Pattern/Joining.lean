import Signpost.Proofs.Path.Canonical
import Signpost.Proofs.Pattern.Capturing

/-!
# Patterns one behind another

A pattern that is written as two, the second of which begins with a slash, is read as the atoms of
the one and then those of the other (`Pattern.Reading.split`). If there is no `**` in the first, the
number of slashes in a word of it is fixed, so the words of a path that it can take leave the same
rest (`Pattern.Atom.rest_unique`). Therefore a page below a mount matches what the page with the
joined pattern matches, with the same variables (`Pattern.matchVars?_append`).
-/

namespace Signpost

namespace Pattern

/-! ## Readings -/

namespace Reading

variable {names names' : List (List Char)} {s t : List Char} {atoms : List Atom}

theorem mono (h : Reading names s atoms) : ∀ {names' : List (List Char)}, names' ⊆ names →
    Reading names' s atoms := by
  induction h with
  | nil => exact fun _ => .nil
  | literal hc _ ih => exact fun hsub => .literal hc (ih hsub)
  | segment hs _ ih => exact fun hsub => .segment hs (ih hsub)
  | rest _ ih => exact fun hsub => .rest (ih hsub)
  | capture hname hfresh _ ih =>
    exact fun hsub => .capture hname (fun hmem => hfresh (hsub hmem))
      (ih (List.cons_subset_cons _ hsub))

/-- A reading falls apart at a slash. -/
theorem split (h : Reading names (s ++ '/' :: t) atoms) : ∃ P Q names',
    atoms = P ++ Q ∧ Reading names s P ∧ Reading names' ('/' :: t) Q := by
  generalize htext : s ++ '/' :: t = text at h
  induction h generalizing s with
  | nil => simp at htext
  | @literal names c _ atoms hc h ih =>
    cases s with
    | nil =>
      obtain ⟨rfl, rfl⟩ := List.cons.inj htext
      exact ⟨[], _, names, rfl, .nil, .literal hc h⟩
    | cons d s =>
      obtain ⟨rfl, hrest⟩ := List.cons.inj htext
      obtain ⟨P, Q, names', rfl, hP, hQ⟩ := ih hrest
      exact ⟨_, Q, names', rfl, .literal hc hP, hQ⟩
  | segment hs _ ih =>
    cases s with
    | nil => cases htext
    | cons d s =>
      obtain ⟨rfl, hrest⟩ := List.cons.inj htext
      obtain ⟨P, Q, names', rfl, hP, hQ⟩ := ih hrest
      refine ⟨_, Q, names', rfl, .segment (fun hstar => hs ?_) hP, hQ⟩
      rw [← hrest]
      exact List.head?_append.trans (by rw [hstar]; rfl)
  | rest _ ih =>
    cases s with
    | nil => cases htext
    | cons d s =>
      obtain ⟨rfl, hrest⟩ := List.cons.inj htext
      cases s with
      | nil => cases hrest
      | cons d s =>
        obtain ⟨rfl, hmore⟩ := List.cons.inj hrest
        obtain ⟨P, Q, names', rfl, hP, hQ⟩ := ih hmore
        exact ⟨_, Q, names', rfl, .rest hP, hQ⟩
  | @capture names name u atoms hname hfresh _ ih =>
    cases s with
    | nil => cases htext
    | cons d s =>
      obtain ⟨rfl, hrest⟩ := List.cons.inj htext
      -- the slash is not one of the characters of the name
      have hslash : '/' ∉ name := fun hmem =>
        absurd (isAlphanum_of_mem_of_isName hname _ hmem) (by decide)
      obtain ⟨r, hs, hr⟩ | ⟨r, rfl, hr⟩ := List.append_eq_append_iff.mp hrest
      · cases r with
        | nil => cases hr
        | cons c r =>
          obtain ⟨rfl, -⟩ := List.cons.inj hr
          exact absurd (hs ▸ List.mem_append_right s List.mem_cons_self) hslash
      · cases r with
        | nil => cases hr
        | cons c r =>
          obtain ⟨rfl, hu⟩ := List.cons.inj hr
          obtain ⟨P, Q, names', rfl, hP, hQ⟩ := ih hu.symm
          exact ⟨_, Q, names', rfl, .capture hname hfresh hP, hQ⟩

theorem rest_mem (h : Reading names s atoms) (hrest : .rest ∈ atoms) : ['*', '*'] <:+: s := by
  induction h with
  | nil => cases hrest
  | literal _ _ ih =>
    exact (ih (by simpa using hrest)).trans (List.suffix_cons _ _).isInfix
  | segment _ _ ih =>
    exact (ih (by simpa using hrest)).trans (List.suffix_cons _ _).isInfix
  | @rest _ s _ _ _ => exact (List.prefix_append ['*', '*'] s).isInfix
  | @capture _ name s _ _ _ _ ih =>
    refine (ih (by simpa using hrest)).trans ?_
    exact ((List.suffix_cons _ s).trans
      ((List.suffix_append name _).trans (List.suffix_cons _ _))).isInfix

end Reading

/-! ## Counting slashes -/

namespace Atom

variable {H : List Char → Prop} {atoms : List Atom} {s t u w w' r : List Char}
  {us : List (List Char)}

theorem ne_nil_of_denotes {a : Atom} (h : a.Denotes u) : u ≠ [] := by
  cases a with
  | char c =>
    obtain rfl : u = [c] := h
    exact List.cons_ne_nil c []
  | _ => exact h.1

/-- Every atom takes at least one character. -/
theorem length_le_of_denoteAll (h : DenoteAll atoms w) : atoms.length ≤ w.length := by
  induction h with
  | nil => exact Nat.le_refl _
  | cons hu _ ih =>
    have := List.length_pos_iff.mpr (ne_nil_of_denotes hu)
    rw [List.length_cons, List.length_append]
    omega

/-- Without `**`, the slashes of a word are those that are written in the pattern. -/
theorem count_slash_eq (h : DenoteAll atoms w) (hrest : .rest ∉ atoms) :
    w.count '/' = atoms.count (.char '/') := by
  induction h with
  | nil => rfl
  | @cons a atoms u v hu _ ih =>
    obtain ⟨hne, hmore⟩ := not_or.mp (mt List.mem_cons.mpr hrest)
    rw [List.count_append, ih hmore, List.count_cons, Nat.add_comm]
    congr 1
    cases a with
    | char c =>
      obtain rfl : u = [c] := hu
      simp [List.count_singleton]
    | rest => exact absurd rfl hne
    | segment | capture => simpa using List.count_eq_zero.mpr hu.2

/-- A rest that is empty or begins with a slash is determined by the number of slashes before it. -/
theorem rest_eq_of_count_eq (h : w ++ s = w' ++ t) (hcount : w.count '/' = w'.count '/')
    (hs : s = [] ∨ s.head? = some '/') (ht : t = [] ∨ t.head? = some '/') : s = t := by
  have hshort : ∀ {w w' s t : List Char} {x : List Char}, w' = w ++ x → s = x ++ t →
      w.count '/' = w'.count '/' → (s = [] ∨ s.head? = some '/') → s = t := by
    rintro w _ _ t (_ | ⟨c, x⟩) rfl rfl hcount hs
    · rfl
    · obtain rfl : c = '/' := by simpa using hs
      simp at hcount
  obtain ⟨x, hw, hx⟩ | ⟨x, hw, hx⟩ := List.append_eq_append_iff.mp h
  · exact hshort hw hx hcount hs
  · exact (hshort hw hx hcount.symm ht).symm

theorem Suffix.eq_nil_or (h : Suffix r) : r = [] ∨ r.head? = some '/' := by
  obtain rfl | ⟨t, rfl, -⟩ := h
  · exact .inl rfl
  · exact .inr rfl

/-- Two words with which a text begins leave the same rest, if it may stand behind a mount. -/
theorem rest_unique (hrest : .rest ∉ atoms) (hw : DenoteAll atoms w) (hw' : DenoteAll atoms w')
    (h : w ++ s = w' ++ t) (hs : Suffix s) (ht : Suffix t) : s = t :=
  rest_eq_of_count_eq h ((count_slash_eq hw hrest).trans (count_slash_eq hw' hrest).symm)
    hs.eq_nil_or ht.eq_nil_or

/-- The atoms of a mount pick the same words whatever is to follow, if only it can follow. -/
theorem picks_suffix_iff (hrest : .rest ∉ atoms)
    (hH : ∀ w t, s = w ++ t → DenoteAll atoms w → H t → Suffix t) :
    Picks H atoms s us r ↔ Picks Suffix atoms s us r ∧ H r := by
  constructor
  · intro h
    obtain ⟨hs, hw, hr⟩ := h.divides
    have hsuffix := hH us.flatten r hs hw hr
    refine ⟨h.congr (fun w t hs' hw' ht => ?_) hsuffix, hr⟩
    exact rest_unique hrest hw hw' (hs.symm.trans hs') hsuffix ht ▸ hr
  · rintro ⟨h, hr⟩
    exact h.congr hH hr

/-! ## Rests of canonical paths -/

section Rest

variable {path : String}

theorem clean_rest (h : Path.Canonical path) (hpath : path.toList = w ++ '/' :: t) (hw : w ≠ []) :
    Path.clean (String.ofList ('/' :: t)) = String.ofList ('/' :: t) := by
  obtain ⟨es, hne, hes, ht⟩ := Path.exists_elements_of_append h hpath hw
  exact Path.canonical_iff.mp ⟨es, hes, by rw [ht, Path.ofElements_eq_flatMap hne]⟩

theorem not_slashes_rest (h : Path.Canonical path) (hpath : path.toList = w ++ '/' :: t)
    (hw : w ≠ []) : ¬Slashes ('/' :: t) := by
  obtain ⟨es, hne, hes, ht⟩ := Path.exists_elements_of_append h hpath hw
  intro hslashes
  cases es with
  | nil => exact hne rfl
  | cons e es =>
    obtain ⟨hempty, -, -, hslash⟩ := hes e List.mem_cons_self
    obtain ⟨c, hc⟩ := List.exists_mem_of_ne_nil e hempty
    have hmem : c ∈ '/' :: t := by
      rw [ht, List.flatMap_cons]
      exact List.mem_append_left _ (List.mem_cons_of_mem _ hc)
    exact hslash (hslashes c hmem ▸ hc)

end Rest

/-- The atoms `Q'` divide a rest just as the atoms `Q` divide its cleaned form, and their captures
get the same. -/
def Continues (Q Q' : List Atom) (r : List Char) : Prop :=
  (Leads Slashes Q' r → Leads Slashes Q (Path.clean (String.ofList r)).toList) ∧
    ∀ us t, Picks Slashes Q (Path.clean (String.ofList r)).toList us t →
      ∃ us' t', Picks Slashes Q' r us' t' ∧ values Q' us' = values Q us

/-- A rest behind which a slash follows is clean already. -/
theorem Continues.refl_of_clean {Q : List Atom}
    (h : Path.clean (String.ofList r) = String.ofList r) : Continues Q Q r := by
  rw [Continues, h, String.toList_ofList]
  exact ⟨id, fun us t hpicks => ⟨us, t, hpicks, rfl⟩⟩

end Atom

/-! ## Matching one behind the other -/

open Atom (Picks Leads Slashes Suffix Continues values)

theorem merge_foldl_insert (vars other : Vars) (l : List (String × String)) :
    vars.merge (l.foldl (fun d e => d.insert e.1 e.2) other) =
      l.foldl (fun d e => d.insert e.1 e.2) (vars.merge other) := by
  induction l generalizing other with
  | nil => rfl
  | cons e l ih => rw [List.foldl_cons, ih, Dict.merge_insert, List.foldl_cons]

/-- The pattern is compiled from the atoms. -/
structure OfAtoms (p : Pattern) (mode : Mode) (atoms : List Atom) : Prop where
  mode_eq : p.mode = mode
  regex_eq : ∃ source, p.regex = .ofExpr source
    (match mode with
      | .exact => Atom.exactExpr atoms
      | .mount => Atom.mountExpr atoms)

/-- A page below a mount matches what the page with the joined atoms matches, with the same
variables. -/
theorem matchVars?_append {mount page joined : Pattern} {P Q Q' : List Atom}
    (hmount : mount.OfAtoms .mount P) (hpage : page.OfAtoms .exact Q)
    (hjoined : joined.OfAtoms .exact (P ++ Q')) (hrest : .rest ∉ P) {path : String}
    (hsuffix : ∀ w t, path.toList = w ++ t → Atom.DenoteAll P w → Leads Slashes Q' t → Suffix t)
    (hcontinues : ∀ w r, path.toList = w ++ r → Atom.DenoteAll P w → Suffix r → Continues Q Q' r)
    (vars : Vars) :
    joined.matchVars? path vars =
      (mount.matchPrefix? path Dict.empty).bind fun (suffix, captures) =>
        page.matchVars? suffix (vars.merge captures) := by
  obtain ⟨hmode, source, hmount⟩ := hmount
  obtain ⟨source', hpage⟩ := hpage.regex_eq
  obtain ⟨source'', hjoined⟩ := hjoined.regex_eq
  by_cases hleads : Leads Suffix P path.toList
  · obtain ⟨us, r, hpicks⟩ := Atom.exists_picks hleads
    obtain ⟨hpath, hw, hr⟩ := hpicks.divides
    obtain ⟨hforth, hback⟩ := hcontinues _ r hpath hw hr
    rw [matchPrefix?_of_picks hmode hmount hpicks, Option.bind_some]
    dsimp only
    rw [merge_foldl_insert, Dict.merge_empty]
    by_cases hpageLeads : Leads Slashes Q (Path.clean (String.ofList r)).toList
    · obtain ⟨us', t, hpagePicks⟩ := Atom.exists_picks hpageLeads
      obtain ⟨us'', t', hrestPicks, hvalues⟩ := hback us' t hpagePicks
      have hfirst : Picks (Leads Slashes Q') P path.toList us r :=
        (Atom.picks_suffix_iff hrest hsuffix).mpr ⟨hpicks, hrestPicks.leads⟩
      rw [matchVars?_of_picks hjoined (hfirst.append hrestPicks),
        matchVars?_of_picks hpage hpagePicks, Atom.values_append hpicks.length_eq, hvalues,
        List.foldl_append]
    · rw [matchVars?_eq_none hpage hpageLeads]
      refine matchVars?_eq_none hjoined (fun hjoinedLeads => ?_) vars
      -- what the joined atoms leave behind the first ones is what the mount leaves
      obtain ⟨us', r', hfirst⟩ := Atom.exists_picks (Atom.leads_append_iff.mp hjoinedLeads)
      obtain ⟨hfirst, hr'⟩ := (Atom.picks_suffix_iff hrest hsuffix).mp hfirst
      obtain ⟨hpath', hw', hsuffix'⟩ := hfirst.divides
      have hsame : r' = r :=
        Atom.rest_unique hrest hw' hw (hpath'.symm.trans hpath) hsuffix' hr
      exact hpageLeads (hforth (hsame ▸ hr'))
  · rw [matchPrefix?_eq_none hmount hleads]
    refine matchVars?_eq_none hjoined (fun hjoinedLeads => hleads ?_) vars
    exact (Atom.leads_append_iff.mp hjoinedLeads).imp hsuffix

/-! ## Compiling the parts and the whole -/

theorem dropSlashes_eq_self {s : List Char} (h : s.getLast? ≠ some '/') : dropSlashes s = s := by
  obtain ⟨n, hn⟩ := eq_dropSlashes_append s
  cases n with
  | zero => simpa using hn.symm
  | succ n =>
    rw [List.replicate_succ', ← List.append_assoc] at hn
    exact absurd (by rw [hn, List.getLast?_concat]) h

/-- A canonical text other than the root is taken as it stands. -/
theorem normalize_canonical (mode : Mode) {text : String} (h : Path.Canonical text)
    (hroot : text ≠ "/") : normalize mode text.toList = text.toList := by
  simp [normalize, h.head?_eq, dropSlashes_eq_self (h.getLast?_ne hroot), h.toList_ne_nil]

namespace Reading

variable {names : List (List Char)} {s : List Char} {atoms : List Atom}

theorem ne_nil (h : Reading names s atoms) (hs : s ≠ []) : atoms ≠ [] := by
  cases h with
  | nil => exact absurd rfl hs
  | _ => exact List.cons_ne_nil _ _

/-- What stands somewhere is read as atoms that take something. -/
theorem words_ne_nil (h : Reading names s atoms) (hs : s ≠ []) {w : List Char}
    (hw : Atom.DenoteAll atoms w) : w ≠ [] := by
  rintro rfl
  have hnil := List.length_eq_zero_iff.mp (Nat.le_zero.mp (Atom.length_le_of_denoteAll hw))
  exact h.ne_nil hs hnil

/-- A slash is read as itself. -/
theorem slash (h : Reading names ('/' :: s) atoms) :
    ∃ rest, atoms = .char '/' :: rest ∧ Reading names s rest := by
  cases h with
  | literal _ h => exact ⟨_, rfl, h⟩

/-- What is read as atoms is compiled from them, unless the machine is too large. -/
theorem compile {mode : Mode} {text : String}
    (h : Reading [] (normalize mode text.toList) atoms) :
    Pattern.compile mode text = .error (.invalidRegex text .tooLarge) ∨
      ∃ p, Pattern.compile mode text = .ok p ∧ p.OfAtoms mode atoms := by
  cases mode with
  | exact =>
    have hcompile := compile_exact h.tokens_eq h.named
    split at hcompile
    · exact .inr ⟨_, hcompile, rfl, _, rfl⟩
    · exact .inl hcompile
  | mount =>
    have hcompile := compile_mount h.tokens_eq h.named
    split at hcompile
    · exact .inr ⟨_, hcompile, rfl, _, rfl⟩
    · exact .inl hcompile

end Reading

/-! ## The page below a mount -/

section Below

variable {p q path : String} {P Q : List Atom} {w r : List Char}

/-- A word of atoms that begin with a slash begins with a slash. -/
theorem Atom.head?_of_denoteAll (h : DenoteAll (.char '/' :: Q) w) : w.head? = some '/' := by
  cases h with
  | cons hu _ =>
    obtain rfl : _ = ['/'] := hu
    rfl

theorem Atom.suffix_of_leads (hfeed : '\n' ∉ path.toList) (hpath : path.toList = w ++ r)
    (h : Leads Slashes (.char '/' :: Q) r) : Suffix r := by
  obtain ⟨u, t, rfl, hu, -⟩ := h
  obtain ⟨v, rfl⟩ := List.head?_eq_some_iff.mp (head?_of_denoteAll hu)
  refine .inr ⟨v ++ t, rfl, fun hmem => hfeed ?_⟩
  rw [hpath, List.cons_append]
  exact List.mem_append_right _ (List.mem_cons_of_mem _ hmem)

/-- Behind the first words of a path a page goes on as it does on the cleaned rest: if nothing is
left, this is the root, which is too short for it. -/
theorem Atom.continues_self (hpath : Path.Canonical path) (htext : path.toList = w ++ r)
    (hw : w ≠ []) (hsuffix : Suffix r) (hQ : 2 ≤ Q.length) : Continues Q Q r := by
  obtain rfl | ⟨t, rfl, -⟩ := hsuffix
  · have hclean : (Path.clean (String.ofList [])).toList = ['/'] := by decide
    have hshort : ∀ s : List Char, s.length < 2 → ¬Leads Slashes Q s := by
      rintro s hs ⟨u, t, rfl, hu, -⟩
      have := length_le_of_denoteAll hu
      rw [List.length_append] at hs
      omega
    refine ⟨fun h => absurd h (hshort [] (by decide)), fun us t hpicks => ?_⟩
    rw [hclean] at hpicks
    exact absurd hpicks.leads (hshort ['/'] (by decide))
  · exact .refl_of_clean (clean_rest hpath htext hw)

theorem Atom.leads_root_iff {s : List Char} :
    Leads Slashes [.char '/'] s ↔ ∃ t, s = '/' :: t ∧ Slashes t := by
  rw [leads_cons_iff]
  constructor
  · rintro ⟨u, t, rfl, hu, ht⟩
    obtain rfl : u = ['/'] := hu
    exact ⟨t, rfl, leads_nil_iff.mp ht⟩
  · rintro ⟨t, rfl, ht⟩
    exact ⟨['/'], t, rfl, rfl, leads_nil_iff.mpr ht⟩

/-- The root below a mount is where nothing is left of the path. -/
theorem Atom.continues_root (hpath : Path.Canonical path) (htext : path.toList = w ++ r)
    (hw : w ≠ []) (hsuffix : Suffix r) : Continues [.char '/'] [] r := by
  obtain rfl | ⟨t, rfl, -⟩ := hsuffix
  · have hclean : (Path.clean (String.ofList [])).toList = ['/'] := by decide
    rw [Continues, hclean]
    refine ⟨fun _ => leads_root_iff.mpr ⟨[], rfl, nofun⟩, fun us t _ => ?_⟩
    refine ⟨[], [], .nil nofun, ?_⟩
    cases us <;> rfl
  · have hrest := not_slashes_rest hpath htext hw
    rw [Continues, clean_rest hpath htext hw, String.toList_ofList]
    refine ⟨fun h => absurd (leads_nil_iff.mp h) hrest, fun us t' hpicks => ?_⟩
    obtain ⟨t, heq, ht⟩ := leads_root_iff.mp hpicks.leads
    obtain ⟨-, rfl⟩ := List.cons.inj heq
    have hslashes : Slashes ('/' :: t) := List.forall_mem_cons.mpr ⟨rfl, ht⟩
    exact absurd hslashes hrest

end Below

/-- `Joins p q joined`: the three patterns compile, unless a machine is too large, and the joined
one matches just what the page `q` below the mount `p` matches. -/
def Joins (p q joined : String) : Prop :=
  (compile .mount p = .error (.invalidRegex p .tooLarge) ∨
      compile .exact q = .error (.invalidRegex q .tooLarge) ∨
      compile .exact joined = .error (.invalidRegex joined .tooLarge)) ∨
    ∃ mount page whole, compile .mount p = .ok mount ∧ compile .exact q = .ok page ∧
      compile .exact joined = .ok whole ∧
      ∀ path, Path.Canonical path → '\n' ∉ path.toList → ∀ vars,
        whole.matchVars? path vars =
          (mount.matchPrefix? path Dict.empty).bind fun (suffix, captures) =>
            page.matchVars? suffix (vars.merge captures)

theorem joins_of_readings {p q joined : String} {P Q Q' : List Atom}
    (hP : Reading [] (normalize .mount p.toList) P) (hQ : Reading [] (normalize .exact q.toList) Q)
    (hjoined : Reading [] (normalize .exact joined.toList) (P ++ Q')) (hrest : .rest ∉ P)
    (hfollow : ∀ path, Path.Canonical path → '\n' ∉ path.toList →
      ∀ w r, path.toList = w ++ r → Atom.DenoteAll P w →
        (Leads Slashes Q' r → Suffix r) ∧ (Suffix r → Continues Q Q' r)) :
    Joins p q joined := by
  obtain hlarge | ⟨mount, hmount, hmountAtoms⟩ := hP.compile
  · exact .inl (.inl hlarge)
  obtain hlarge | ⟨page, hpage, hpageAtoms⟩ := hQ.compile
  · exact .inl (.inr (.inl hlarge))
  obtain hlarge | ⟨whole, hwhole, hwholeAtoms⟩ := hjoined.compile
  · exact .inl (.inr (.inr hlarge))
  refine .inr ⟨mount, page, whole, hmount, hpage, hwhole, fun path hpath hfeed vars => ?_⟩
  have hrests := hfollow path hpath hfeed
  exact matchVars?_append hmountAtoms hpageAtoms hwholeAtoms hrest
    (fun w t ht hw => (hrests w t ht hw).1) (fun w r hr hw => (hrests w r hr hw).2) vars

theorem normalize_join {p q : String} (hp : Path.Canonical p) (hq : Path.Canonical q)
    (hroot : p ≠ "/") : normalize .exact (Path.join p q).toList =
      p.toList ++ (Path.elements q.toList).flatMap ('/' :: ·) := by
  have hne : Path.join p q ≠ "/" := by
    intro heq
    have helements := Path.elements_join_eq p hq
    rw [heq] at helements
    have hnil : Path.elements ("/" : String).toList = [] := by decide
    rw [hnil] at helements
    exact Path.elements_ne_nil hp hroot (List.append_eq_nil_iff.mp helements.symm).1
  rw [normalize_canonical .exact (Path.canonical_join p q) hne, Path.join_eq_append hp hroot hq]

/-- The root joins with a mount to the mount's own pattern. -/
theorem joins_root {p : String} {P : List Atom} (hp : Path.Canonical p) (hroot : p ≠ "/")
    (hP : Reading [] p.toList P) (hrest : .rest ∉ P) : Joins p "/" (Path.join p "/") := by
  have hcanonical : Path.Canonical "/" := Path.canonical_iff.mpr (by decide)
  have hmount : Reading [] (normalize .mount p.toList) P := by
    rwa [normalize_canonical .mount hp hroot]
  have hpage : Reading [] (normalize .exact ("/" : String).toList) [.char '/'] := by
    have hnormalize : normalize .exact ("/" : String).toList = ['/'] := by decide
    exact hnormalize ▸ .literal (by decide) .nil
  have hwhole : Reading [] (normalize .exact (Path.join p "/").toList) (P ++ []) := by
    have hnil : Path.elements ("/" : String).toList = [] := by decide
    rwa [normalize_join hp hcanonical hroot, hnil, List.flatMap_nil, List.append_nil,
      List.append_nil]
  refine joins_of_readings hmount hpage hwhole hrest fun path hpath _ w r hr hw => ⟨?_, ?_⟩
  · intro hleads
    cases r with
    | nil => exact .inl rfl
    | cons c r =>
      have hslashes : Slashes (c :: r) := Atom.leads_nil_iff.mp hleads
      obtain rfl := hslashes c List.mem_cons_self
      have hne := hP.words_ne_nil hp.toList_ne_nil hw
      exact absurd hslashes (Atom.not_slashes_rest hpath hr hne)
  · exact Atom.continues_root hpath hr (hP.words_ne_nil hp.toList_ne_nil hw)

/-- Any other page joins with a mount to both patterns, one behind the other. -/
theorem joins_page {p q : String} {P Q : List Atom} {names : List (List Char)}
    (hp : Path.Canonical p) (hq : Path.Canonical q) (hroot : p ≠ "/") (hqroot : q ≠ "/")
    (hP : Reading [] p.toList P) (hQ : Reading names q.toList Q)
    (hPQ : Reading [] (p.toList ++ q.toList) (P ++ Q)) (hrest : .rest ∉ P) :
    Joins p q (Path.join p q) := by
  have hmount : Reading [] (normalize .mount p.toList) P := by
    rwa [normalize_canonical .mount hp hroot]
  have hpage : Reading [] (normalize .exact q.toList) Q := by
    rw [normalize_canonical .exact hq hqroot]
    exact hQ.mono (List.nil_subset names)
  have hwhole : Reading [] (normalize .exact (Path.join p q).toList) (P ++ Q) := by
    rwa [normalize_join hp hq hroot, ← hq.toList_eq_flatMap hqroot]
  obtain ⟨t, ht⟩ := List.head?_eq_some_iff.mp hq.head?_eq
  obtain ⟨Q, rfl, hmore⟩ := (ht ▸ hQ).slash
  have hlength : 2 ≤ (Atom.char '/' :: Q).length := by
    have hne : Q ≠ [] := by
      refine hmore.ne_nil ?_
      rintro rfl
      exact hqroot (String.toList_inj.mp (ht.trans (by decide)))
    exact Nat.succ_le_succ (List.length_pos_iff.mpr hne)
  refine joins_of_readings hmount hpage hwhole hrest fun path hpath hfeed w r hr hw => ⟨?_, ?_⟩
  · exact Atom.suffix_of_leads hfeed hr
  · have hne := hP.words_ne_nil hp.toList_ne_nil hw
    exact fun hsuffix => Atom.continues_self hpath hr hne hsuffix hlength

theorem joins_join {p q : String} (hp : Path.Canonical p) (hq : Path.Canonical q)
    (hroot : p ≠ "/") (hstars : ¬['*', '*'] <:+: p.toList) (hplain : Plain [] (p ++ q).toList) :
    Joins p q (Path.join p q) := by
  obtain ⟨t, ht⟩ := List.head?_eq_some_iff.mp hq.head?_eq
  obtain ⟨⟨atoms, hatoms⟩, -⟩ := hplain.exists_reading
  rw [String.toList_append] at hatoms
  obtain ⟨P, Q, names, rfl, hP, hQ⟩ := (ht ▸ hatoms).split
  have hrest : .rest ∉ P := fun hmem => hstars (hP.rest_mem hmem)
  by_cases hqroot : q = "/"
  · subst hqroot
    exact joins_root hp hroot hP hrest
  · exact joins_page hp hq hroot hqroot hP (ht.symm ▸ hQ) hatoms hrest

end Pattern

end Signpost
