import Signpost.Proofs.Pattern.Enclosing
import Signpost.Proofs.Regex.Evaluation

/-!
# Anchored matches

Where every sub-pattern is enclosed, the anchors that a pattern is compiled with hold for all of it:
a match takes the whole path, and the last group of a mount is the suffix
(`Pattern.match_of_enclosed`). A sub-pattern that closes its group gets around them, and compilation
does not refuse it (`Pattern.match_not_anchored`).
-/

namespace Signpost.Pattern

open Regex (Expr bind_eq_ok_iff)

/-! ## The expression -/

/-- What stands between the anchors, with the tail of the mode; `index` is that of the suffix. -/
def anchoredExpr (mode : Mode) (index : Nat) (es : List Expr) : Expr :=
  .sequence (.look .textStart :: (es ++ mode.tailExprs index))

variable {mode : Mode} {text path src : String} {ts : List Token} {p : Pattern} {es : List Expr}
  {n : Nat} {c : Regex.Captures}

theorem exists_anchoredExpr {ast : Regex.Ast} {e : Expr} {f : Regex.Flags}
    (hparse : Regex.Ast.parse (source mode ts) = .ok ast)
    (helaborate : ast.elaborate {} = .ok (e, f)) (henclosed : ∀ t ∈ ts, t.Enclosed)
    (hnames : ∀ t ∈ ts, ∀ name, t.name? = some name → isName name) :
    ∃ es n, e = anchoredExpr mode n es ∧ ∀ g ∈ e.groups, 0 < g.1 ∧ g.1 ≤ n := by
  obtain ⟨asts, n, rfl, hasts, hindices⟩ := exists_parts_of_parse hparse henclosed hnames
  have hgroups : ∀ g ∈ e.groups, 0 < g.1 ∧ g.1 ≤ n := fun g hg =>
    hindices _ (Regex.Ast.mem_indices_of_mem_groups hg _ helaborate)
  obtain ⟨⟨parts, f'⟩, hparts, h⟩ := bind_eq_ok_iff.mp helaborate
  cases h
  obtain ⟨⟨start, f'⟩, hstart, h⟩ := bind_eq_ok_iff.mp hparts
  cases hstart
  obtain ⟨⟨rest, f'⟩, hrest, h⟩ := bind_eq_ok_iff.mp h
  cases h
  obtain ⟨es, back, rfl, htail⟩ := Regex.Ast.elaborateAll_append hasts hrest
  rw [Mode.elaborateAll_tailParts] at htail
  cases htail
  exact ⟨es, n, rfl, hgroups⟩

/-- A pattern whose sub-patterns are enclosed compiles to an expression between its anchors, and the
suffix of a mount is the last group. -/
theorem regex_eq_of_compile (hp : compile mode text = .ok p)
    (htokens : tokens [] (normalize mode text.toList) = .ok ts)
    (henclosed : ∀ t ∈ ts, t.Enclosed) :
    p.mode = mode ∧ ∃ src es,
      p.regex = .ofExpr src (anchoredExpr mode p.regex.groupNames.length es) ∧
        ∀ g ∈ (anchoredExpr mode p.regex.groupNames.length es).groups, 0 < g.1 := by
  rw [compile, htokens] at hp
  dsimp only at hp
  split at hp
  · cases hp
  · rename_i regex hregex
    cases hp
    refine ⟨rfl, ?_⟩
    rw [Regex.compile, String.toList_ofList] at hregex
    obtain ⟨ast, hparse, h⟩ := bind_eq_ok_iff.mp hregex
    obtain ⟨⟨e, f⟩, helaborate, h⟩ := bind_eq_ok_iff.mp h
    dsimp only at h
    split at h
    swap
    · cases h
    cases h
    obtain ⟨es, n, rfl, hgroups⟩ :=
      exists_anchoredExpr hparse helaborate henclosed (Token.isName_of_tokens htokens)
    refine ⟨String.ofList (source mode ts), es, ?_⟩
    cases mode with
    | exact => exact ⟨rfl, fun g hg => (hgroups g hg).1⟩
    | mount =>
      have hlast : (n, none) ∈ (anchoredExpr .mount n es).groups := by
        rw [anchoredExpr, Regex.Expr.groups_sequence, List.flatMap_cons, List.flatMap_append]
        exact List.mem_append_right _ (List.mem_append_right _ List.mem_cons_self)
      have hlength : (Regex.ofExpr (String.ofList (source .mount ts))
          (anchoredExpr .mount n es)).groupNames.length = n :=
        Regex.length_groupNames_ofExpr hlast fun g hg => (hgroups g hg).2
      rw [hlength]
      exact ⟨rfl, fun g hg => (hgroups g hg).1⟩

/-! ## Matches -/

/-- A match goes from the start to the end of the path, and the tail takes its share last. -/
theorem slots_of_captures? (hpos : ∀ g ∈ (anchoredExpr mode n es).groups, 0 < g.1)
    (h : (Regex.ofExpr src (anchoredExpr mode n es)).captures? path = some c) :
    ∃ i ≤ c.text.size, ∃ front tail,
      c.text = path.toList.toArray ∧
      Expr.MatchesAll c.text es 0 i front ∧
      Expr.MatchesAll c.text (mode.tailExprs n) i c.text.size tail ∧
      c.slots = (1, c.text.size) :: (tail ++ front ++ [(0, 0)]) ∧
      ∀ s ∈ tail ++ front, 2 ≤ s.1 := by
  obtain ⟨t, hsearch, rfl⟩ := Option.map_eq_some_iff.mp h
  obtain ⟨i, w, hi, hmatch, hslots⟩ := Regex.search_eq_some hsearch
  have hkeys : ∀ s ∈ w, 2 ≤ s.1 := by
    intro s hs
    obtain ⟨g, hg, hkey⟩ := Expr.exists_group_of_matches hmatch s hs
    have := hpos g hg
    omega
  cases (Expr.matches_sequence_iff _).mp hmatch with
  | cons hstart hrest =>
    obtain ⟨rfl, rfl, hbefore⟩ := Atom.matches_textStart_iff.mp hstart
    obtain rfl := Atom.eq_zero_of_before?_eq_none hi hbefore
    obtain ⟨j, front, tail, rfl, hfront, htail⟩ := (Expr.matchesAll_append_iff _ _).mp hrest
    have hj := hfront.le_size hi
    have hend : t.pos = path.toList.toArray.size := by
      cases mode with
      | exact => exact (Atom.matchesAll_exactTail htail hj).1
      | mount => exact (Atom.matchesAll_mountTail htail hj).1
    rw [hend] at htail hslots
    rw [List.append_nil] at hslots hkeys
    exact ⟨j, hj, front, tail, rfl, hfront, htail, hslots, hkeys⟩

theorem span?_zero {i k : Nat} {w : List (Nat × Nat)} (h : c.slots = (1, k) :: (w ++ [(0, i)]))
    (hw : ∀ s ∈ w, 0 < s.1) : c.span? 0 = some (i, k) := by
  have hstart : c.slot? 0 = some i := by
    refine Regex.Captures.slot?_of_slots (h.trans (List.cons_append ..).symm) fun s hs => ?_
    obtain rfl | hs := List.mem_cons.mp hs
    · exact Nat.one_ne_zero
    · exact Nat.ne_of_gt (hw s hs)
  have hstop : c.slot? 1 = some k := by rw [Regex.Captures.slot?, h]; rfl
  rw [Regex.Captures.span?, hstart, hstop]
  rfl

theorem exists_of_matchPrefix? {vars vars' : Vars} {suffix : String}
    (h : p.matchPrefix? path vars = some (suffix, vars')) :
    ∃ c, p.regex.captures? path = some c ∧ p.mode = .mount ∧
      suffix = Path.clean ((c.group? p.regex.groupNames.length).getD "") := by
  unfold matchPrefix? at h
  split at h
  · cases h
  · rename_i hmode
    obtain ⟨c, hc, heq⟩ := Option.map_eq_some_iff.mp h
    cases heq
    exact ⟨c, hc, hmode, rfl⟩

/-- The last group of a mount is the rest of the path behind what the expressions took. -/
theorem suffix_of_captures? (hpos : ∀ g ∈ (anchoredExpr .mount n es).groups, 0 < g.1)
    (h : (Regex.ofExpr src (anchoredExpr .mount n es)).captures? path = some c) :
    ∃ front rest, path.toList = front ++ rest ∧
      (∃ w, Expr.MatchesAll c.text es 0 front.length w) ∧ Atom.Suffix rest ∧
      c.span? n = some (front.length, path.toList.length) ∧
      c.group? n = some (String.ofList rest) := by
  obtain ⟨i, hi, front, tail, htext, hfront, htail, hslots, hkeys⟩ := slots_of_captures? hpos h
  obtain ⟨-, hrest, rfl⟩ := Atom.matchesAll_mountTail htail hi
  have hspan : c.span? n = some (i, c.text.size) := by
    have hkey := hkeys _ (List.mem_append_left _ (List.mem_cons_of_mem _ List.mem_cons_self))
    have hsplit : c.slots = [(1, c.text.size)] ++ _ := hslots
    refine Regex.Captures.span?_of_slots hsplit fun e he => ?_
    obtain rfl := List.mem_singleton.mp he
    dsimp only at hkey ⊢
    omega
  rw [htext] at hi hrest hspan
  rw [List.size_toArray] at hi hspan
  have hlength : (path.toList.take i).length = i := List.length_take_of_le hi
  have hgroup : c.group? n = some (String.ofList (path.toList.drop i)) := by
    have htake : (path.toList.drop i).take (path.toList.length - i) = path.toList.drop i :=
      List.take_of_length_le (Nat.le_of_eq List.length_drop)
    rw [Regex.Captures.group?, hspan, htext]
    exact congrArg (some ∘ String.ofList) htake
  refine ⟨path.toList.take i, path.toList.drop i, (List.take_append_drop i _).symm, ?_, hrest, ?_,
    hgroup⟩
  · exact ⟨front, hlength.symm ▸ hfront⟩
  · rw [hlength, hspan]

/-- If all sub-patterns are enclosed, every match takes the whole path. For a mount, the last group
is the suffix, which is the rest of the path behind what the pattern before it has taken. -/
theorem match_of_enclosed (hp : compile mode text = .ok p)
    (htokens : tokens [] (normalize mode text.toList) = .ok ts)
    (henclosed : ∀ t ∈ ts, t.Enclosed) (path : String) :
    ∃ es, p.regex.expr = anchoredExpr mode p.regex.groupNames.length es ∧
      (∀ c, p.regex.captures? path = some c → c.span? 0 = some (0, path.toList.length)) ∧
      ∀ vars suffix vars', p.matchPrefix? path vars = some (suffix, vars') →
        ∃ c front rest, p.regex.captures? path = some c ∧ path.toList = front ++ rest ∧
          (∃ w, Expr.MatchesAll c.text es 0 front.length w) ∧ Atom.Suffix rest ∧
          c.span? p.regex.groupNames.length = some (front.length, path.toList.length) ∧
          suffix = Path.clean (String.ofList rest) := by
  obtain ⟨hmode, src, es, hregex, hpos⟩ := regex_eq_of_compile hp htokens henclosed
  refine ⟨es, congrArg Regex.expr hregex, fun c hc => ?_, fun vars suffix vars' h => ?_⟩
  · obtain ⟨i, hi, front, tail, htext, -, -, hslots, hkeys⟩ :=
      slots_of_captures? hpos (hregex ▸ hc)
    rw [span?_zero hslots fun s hs => Nat.lt_of_succ_lt (hkeys s hs), htext, List.size_toArray]
  · obtain ⟨c, hc, hmount, hsuffix⟩ := exists_of_matchPrefix? h
    obtain rfl : mode = .mount := hmode ▸ hmount
    obtain ⟨front, rest, hpath, hfront, hrest, hspan, hgroup⟩ :=
      suffix_of_captures? hpos (hregex ▸ hc)
    rw [hgroup] at hsuffix
    exact ⟨c, front, rest, hc, hpath, hfront, hrest, hspan, hsuffix⟩

/-- Both anchors hold for each of the alternatives that a capture lists. -/
theorem match_of_enclosed_alternatives :
    ∃ p ts c, compile .mount "/\x7blang:en|de\x7d" = .ok p ∧
      tokens [] (normalize .mount "/\x7blang:en|de\x7d".toList) = .ok ts ∧
      (∀ t ∈ ts, t.Enclosed) ∧ p.regex.captures? "/de/faq" = some c ∧ c.span? 0 = some (0, 7) := by
  let ts : List Token := [.char '/', .named "lang".toList (some "en|de".toList)]
  have htokens : tokens [] (normalize .mount "/\x7blang:en|de\x7d".toList) = .ok ts := by
    decide +kernel
  have hplain : "en|de".toList.all Regex.Parser.State.isPlain = true := by decide
  have henclosed : ∀ t ∈ ts, t.Enclosed :=
    List.forall_mem_cons.mpr ⟨trivial, List.forall_mem_singleton.mpr
      (Regex.Parser.State.enclosed_of_isPlain (List.all_eq_true.mp hplain))⟩
  obtain ⟨p, c, hp, hc, -⟩ := exists_compile_eq .mount "/\x7blang:en|de\x7d" "/de/faq" 400
    (fun _ _ => ()) () (by decide +kernel)
  obtain ⟨-, -, hspan, -⟩ := match_of_enclosed hp htokens henclosed "/de/faq"
  exact ⟨p, ts, c, hp, htokens, henclosed, hc, hspan c hc⟩

/-- A sub-pattern that closes its group gets around the anchors. In a page it makes the end of the
path count for its last part only; in a mount it drops the suffix group, and what the pattern has
taken comes back as the suffix. -/
theorem match_not_anchored :
    (∃ p c, compile .exact "/\x7b:a)|(?:b\x7d" = .ok p ∧
      p.regex.captures? "/axyz" = some c ∧ c.span? 0 = some (0, 2)) ∧
    (∃ p c, compile .mount "/\x7b:a)(?x)#\x7d" = .ok p ∧
      p.regex.captures? "/axyz" = some c ∧
        (c.span? 0, p.regex.groupNames.length, c.group? 0) = (some (0, 2), 0, some "/a")) := by
  constructor
  · exact exists_compile_eq .exact _ _ 400 (fun _ c => c.span? 0) _ (by decide +kernel)
  · exact exists_compile_eq .mount _ _ 400
      (fun p c => (c.span? 0, p.regex.groupNames.length, c.group? 0)) _ (by decide +kernel)

end Signpost.Pattern
