import Signpost.Proofs.Pattern.Mounting
import Signpost.Proofs.Pattern.Picks
import Signpost.Proofs.Regex.Groups
import Signpost.Proofs.Regex.Longest

/-!
# What a simple pattern captures

The search divides a path among the atoms of a pattern by picks, and what captures pick is what a
match writes into the variables (`Pattern.matchVars?_of_picks`, `Pattern.matchPrefix?_of_picks`).
-/

namespace Signpost

namespace Pattern

open Unicode (CharSet)
open Regex (Expr Node Spans)

namespace Atom

variable {text : Array Char} {H : List Char → Prop} {a : Atom} {atoms : List Atom}
  {tail : List Expr} {s u r : List Char} {us : List (List Char)} {i j k : Nat}
  {w : List (Nat × Nat)}

/-! ## Choosing picks -/

theorem spans_iff : Spans text i u j ↔
    text.toList.drop i = u ++ text.toList.drop j ∧ j = i + u.length := by
  constructor
  · rintro ⟨⟨t, ht⟩, rfl⟩
    rw [← List.drop_drop, ← ht, List.drop_left]
    exact ⟨rfl, rfl⟩
  · rintro ⟨hdrop, hj⟩
    exact ⟨⟨_, hdrop.symm⟩, hj⟩

/-- From every position of the text, the expressions match some of it exactly if the rest of the
text is in `H`. -/
def Ends (text : Array Char) (tail : List Expr) (H : List Char → Prop) : Prop :=
  ∀ i ≤ text.size, (∃ j w, Expr.MatchesAll text tail i j w) ↔ H (text.toList.drop i)

theorem exists_matchesAll_iff (htail : Ends text tail H) (index : Nat) (hi : i ≤ text.size) :
    (∃ j w, Expr.MatchesAll text (exprs index atoms ++ tail) i j w) ↔
      Leads H atoms (text.toList.drop i) := by
  constructor
  · rintro ⟨k, w, h⟩
    obtain ⟨j, v, v', -, hatoms, hrest⟩ := (Expr.matchesAll_append_iff _ _).mp h
    obtain ⟨u, hu, hspan⟩ := (matchesAll_exprs_iff atoms index i j).mp ⟨v, hatoms⟩
    exact ⟨u, _, (spans_iff.mp hspan).1, hu, (htail j (hspan.le_size hi)).mp ⟨k, v', hrest⟩⟩
  · rintro ⟨u, r, hdrop, hu, hr⟩
    have hspan : Spans text i u (i + u.length) := ⟨⟨r, hdrop.symm⟩, rfl⟩
    obtain ⟨v, hatoms⟩ := (matchesAll_exprs_iff atoms index i _).mpr ⟨u, hu, hspan⟩
    have hrest : text.toList.drop (i + u.length) = r := by
      rw [← List.drop_drop, hdrop, List.drop_left]
    obtain ⟨k, v', htail⟩ := (htail _ (hspan.le_size hi)).mpr (hrest ▸ hr)
    exact ⟨k, _, (Expr.matchesAll_append_iff _ _).mpr ⟨_, v, v', rfl, hatoms, htail⟩⟩

theorem chooses_expr {K : Nat → Prop} (index : Nat) (hu : a.Denotes u) (hspan : Spans text i u j)
    (hlongest : ∀ v k, a.Denotes v → Spans text i v k → K k → v.length ≤ u.length) :
    (a.expr index).expand.Chooses text K i j (a.slots index i j) := by
  have hplus : ∀ c : Char, u ≠ [] → c ∉ u →
      (∀ v k, v ≠ [] → c ∉ v → Spans text i v k → K k → v.length ≤ u.length) →
      (Node.plus true (.set (CharSet.single c).complement)).Chooses text K i j [] := by
    intro c hne hc hmax
    have hset : ∀ v : List Char,
        (∀ d ∈ v, (CharSet.single c).complement.contains d = true) ↔ c ∉ v := by
      intro v
      simp only [CharSet.contains_complement_single, bne_iff_ne]
      exact ⟨fun h hd => h c hd rfl, fun h d hd hcd => h (hcd ▸ hd)⟩
    refine Node.chooses_plus_set hne ((hset u).mpr hc) hspan fun v k hv hspan' hK => ?_
    obtain rfl | hne' := eq_or_ne v []
    · exact Nat.zero_le _
    · exact hmax v k hne' ((hset v).mp hv) hspan' hK
  cases a with
  | char c =>
    obtain rfl : u = [c] := hu
    obtain rfl := hspan.2
    exact .set (Spans.singleton_iff.mp hspan) (by simp)
  | segment => exact hplus '/' hu.1 hu.2 fun v k hne hv => hlongest v k ⟨hne, hv⟩
  | rest => exact hplus '\n' hu.1 hu.2 fun v k hne hv => hlongest v k ⟨hne, hv⟩
  | capture name =>
    exact .capture (hplus '/' hu.1 hu.2 fun v k hne hv => hlongest v k ⟨hne, hv⟩)

/-- The positions that are stored when the atoms take the words from position `i` on. -/
def slotsAll (index i : Nat) : List Atom → List (List Char) → List (Nat × Nat)
  | a :: atoms, u :: us =>
    slotsAll (index + a.groups) (i + u.length) atoms us ++ a.slots index i (i + u.length)
  | _, _ => []

/-- The expressions for the atoms choose the words that the atoms pick. -/
theorem choosesAll_exprs (htail : Ends text tail H) (hpicks : Picks H atoms s us r)
    (hi : i ≤ text.size) (hs : text.toList.drop i = s)
    (hr : ∀ j ≤ text.size, text.toList.drop j = r →
      Expr.ChoosesAll text (fun _ => True) tail j k w) : ∀ index,
    Expr.ChoosesAll text (fun _ => True) (exprs index atoms ++ tail) i k
      (w ++ slotsAll index i atoms us) := by
  induction hpicks generalizing i with
  | nil =>
    intro index
    have hnil : slotsAll index i [] [] = [] := rfl
    rw [hnil, List.append_nil]
    exact hr i hi hs
  | @cons a atoms u s r us hu hlongest _ ih =>
    intro index
    have hspan : Spans text i u (i + u.length) := ⟨⟨s, hs.symm⟩, rfl⟩
    have hrest : text.toList.drop (i + u.length) = s := by
      rw [← List.drop_drop, hs, List.drop_left]
    rw [exprs, slotsAll, List.cons_append, ← List.append_assoc]
    refine .cons (chooses_expr index hu hspan fun v j hv hspan' hmore => ?_)
      (ih (hspan.le_size hi) hrest hr (index + a.groups))
    have hleads : Leads H atoms (text.toList.drop j) :=
      (exists_matchesAll_iff htail (index + a.groups) (hspan'.le_size hi)).mp (by simpa using hmore)
    exact hlongest v _ (hs.symm.trans (spans_iff.mp hspan').1) hv hleads

/-! ## Choosing ends -/

/-- Nothing but slashes, as may stand behind the words of a page. -/
def Slashes (r : List Char) : Prop := ∀ c ∈ r, c = '/'

/-- Nothing, or a slash and more on the same line, as may stand behind the words of a mount. -/
def Suffix (r : List Char) : Prop := r = [] ∨ ∃ t, r = '/' :: t ∧ '\n' ∉ t

def exactTail : List Expr :=
  [.repetition 0 none true (.set (CharSet.single '/')), .look .textEnd]

def mountTail (index : Nat) : List Expr := [suffixExpr index, .look .textEnd]

theorem matchesAll_textEnd_iff :
    Expr.MatchesAll text [.look .textEnd] i j w ↔ w = [] ∧ j = i ∧ text.size ≤ i := by
  constructor
  · intro h
    cases h with
    | cons h hnil =>
      cases hnil
      exact matches_textEnd_iff.mp h
  · rintro ⟨rfl, rfl, hi⟩
    exact .cons (matches_textEnd_iff.mpr ⟨rfl, rfl, hi⟩) .nil

theorem chooses_textEnd {K : Nat → Prop} :
    Expr.ChoosesAll text K [.look .textEnd] text.size text.size [] :=
  .cons (.look (by simp [Regex.Look.holds])) .nil

theorem drop_size : text.toList.drop text.size = [] := by simp

/-- The rest of the text from the position is the word up to the end. -/
theorem spans_rest (hi : i ≤ text.size) (hr : text.toList.drop i = r) :
    Spans text i r text.size := by
  refine ⟨hr ▸ List.prefix_refl _, ?_⟩
  rw [← hr, List.length_drop, Array.length_toList]
  omega

/-- No word of a set that stands at the position is longer than the rest of the text. -/
theorem longest_rest {set : CharSet} {K : Nat → Prop} (hr : text.toList.drop i = r) :
    Node.Longest text set K i r :=
  fun _ _ _ hspan _ => hr ▸ hspan.1.length_le

theorem chooses_exactTail {K : Nat → Prop} (hslashes : Slashes r) (hi : i ≤ text.size)
    (hr : text.toList.drop i = r) : Expr.ChoosesAll text K exactTail i text.size [] := by
  have hset : ∀ c ∈ r, (CharSet.single '/').contains c = true := fun c hc => by
    simp [hslashes c hc]
  exact .cons (Node.chooses_star_set hset (spans_rest hi hr) (longest_rest hr)) chooses_textEnd

theorem matchesAll_exactTail (h : Expr.MatchesAll text exactTail i k w) (hi : i ≤ text.size) :
    k = text.size ∧ Slashes (text.toList.drop i) := by
  cases h with
  | cons hslashes hend =>
    obtain ⟨-, rfl, hsize⟩ := matchesAll_textEnd_iff.mp hend
    obtain ⟨-, n, hspan⟩ := matches_slashes_iff.mp hslashes
    obtain rfl := Nat.le_antisymm (hspan.le_size hi) hsize
    refine ⟨rfl, fun c hc => ?_⟩
    rw [(spans_iff.mp hspan).1, drop_size, List.append_nil] at hc
    exact List.eq_of_mem_replicate hc

theorem ends_exactTail (text : Array Char) : Ends text exactTail Slashes :=
  fun _ hi => ⟨fun ⟨_, _, h⟩ => (matchesAll_exactTail h hi).2,
    fun h => ⟨_, _, (chooses_exactTail (K := fun _ => True) h hi rfl).matchesAll⟩⟩

theorem contains_restSet {c : Char} : restSet.contains c = true ↔ c ≠ '\n' := by
  rw [restSet, CharSet.contains_complement_single, bne_iff_ne, ne_comm]

/-- The suffix group takes the rest of the text, if what follows can succeed at the end only. -/
theorem chooses_suffixExpr {K : Nat → Prop} (index : Nat) (hsuffix : Suffix r)
    (hi : i ≤ text.size) (hr : text.toList.drop i = r) (hK : ∀ j, K j → text.size ≤ j) :
    (suffixExpr index).expand.Chooses text K i text.size
      [(2 * index + 1, text.size), (2 * index, i)] := by
  have hspan := spans_rest hi hr
  change (Node.capture index (.alt .empty
    (.seq (.set (CharSet.single '/')) (.star true (.set restSet))))).Chooses text K i text.size _
  obtain rfl | ⟨t, rfl, ht⟩ := hsuffix
  · obtain rfl : text.size = i := hspan.2
    exact .capture (.first .empty)
  · obtain ⟨hfirst, hmore⟩ : Spans text i ['/'] (i + 1) ∧ Spans text (i + 1) t text.size :=
      Spans.split hspan
    have hset : ∀ c ∈ t, restSet.contains c = true :=
      fun c hc => contains_restSet.mpr fun heq => ht (heq ▸ hc)
    have hrest : text.toList.drop (i + 1) = t := by
      rw [← List.drop_drop, hr]
      rfl
    have hslash : ∀ K, (Node.set (CharSet.single '/')).Chooses text K i (i + 1) [] :=
      fun K => .set (Spans.singleton_iff.mp hfirst) (by simp)
    have hstar : (Node.star true (.set restSet)).Chooses text K (i + 1) text.size [] :=
      Node.chooses_star_set hset hmore (longest_rest hrest)
    refine .capture (.second ?_ (.seq (hslash _) hstar))
    -- the empty suffix is tried first, but the text does not end here
    intro k v hempty hk
    cases hempty
    have hsize := hK _ hk
    have hlt := hfirst.le_size hi
    omega

theorem chooses_mountTail {K : Nat → Prop} (index : Nat) (hsuffix : Suffix r) (hi : i ≤ text.size)
    (hr : text.toList.drop i = r) : Expr.ChoosesAll text K (mountTail index) i text.size
      [(2 * index + 1, text.size), (2 * index, i)] := by
  refine .cons (chooses_suffixExpr index hsuffix hi hr ?_) chooses_textEnd
  rintro j ⟨k, v, hend, -⟩
  exact (matchesAll_textEnd_iff.mp hend).2.2

/-- Whatever the suffix group takes is the rest of the text. -/
theorem matchesAll_mountTail {index : Nat} (h : Expr.MatchesAll text (mountTail index) i k w)
    (hi : i ≤ text.size) : k = text.size ∧ Suffix (text.toList.drop i) ∧
      w = [(2 * index + 1, text.size), (2 * index, i)] := by
  cases h with
  | cons hsuffix hend =>
    obtain ⟨rfl, rfl, hsize⟩ := matchesAll_textEnd_iff.mp hend
    cases hsuffix with
    | capture hbody =>
      cases hbody with
      | first hempty =>
        cases hempty
        obtain rfl := Nat.le_antisymm hi hsize
        exact ⟨rfl, .inl drop_size, rfl⟩
      | second hseq =>
        cases hseq with
        | seq hslash hstar =>
          obtain ⟨rfl, c, hc, hfirst⟩ := Node.matches_set_iff.mp hslash
          obtain ⟨rfl, t, ht, hmore⟩ := Node.matches_star_set_iff.mp hstar
          have hspan := hfirst.append hmore
          obtain rfl := Nat.le_antisymm (hspan.le_size hi) hsize
          obtain rfl : '/' = c := by simpa using hc
          have hdrop := (spans_iff.mp hspan).1
          rw [drop_size, List.append_nil] at hdrop
          exact ⟨rfl, .inr ⟨t, hdrop, fun hmem => contains_restSet.mp (ht _ hmem) rfl⟩, rfl⟩

theorem ends_mountTail (text : Array Char) (index : Nat) :
    Ends text (mountTail index) Suffix :=
  fun _ hi => ⟨fun ⟨_, _, h⟩ => (matchesAll_mountTail h hi).2.1,
    fun h => ⟨_, _, (chooses_mountTail (K := fun _ => True) index h hi rfl).matchesAll⟩⟩

/-! ## Searching -/

/-- The expression of a pattern for atoms and what follows them. -/
def wholeExpr (atoms : List Atom) (tail : List Expr) : Expr :=
  .sequence (.look .textStart :: (exprs 1 atoms ++ tail))

theorem captures?_of_picks {source path : String} (htail : Ends path.toList.toArray tail H)
    (hpicks : Picks H atoms path.toList us r)
    (hr : ∀ j ≤ path.toList.toArray.size, path.toList.toArray.toList.drop j = r →
      Expr.ChoosesAll path.toList.toArray (fun _ => True) tail j k w) :
    (Regex.ofExpr source (wholeExpr atoms tail)).captures? path =
      some ⟨path.toList.toArray, (1, k) :: (w ++ slotsAll 1 0 atoms us ++ [(0, 0)])⟩ := by
  have hstart : (Expr.look .textStart).expand.Chooses path.toList.toArray
      (fun j => ∃ k v, Expr.MatchesAll path.toList.toArray (exprs 1 atoms ++ tail) j k v ∧ True)
      0 0 [] := .look rfl
  have hall := choosesAll_exprs htail hpicks (Nat.zero_le _) rfl hr 1
  have hwhole := Expr.chooses_sequence (.cons hstart hall)
  rw [List.append_nil] at hwhole
  exact congrArg (Option.map _) (Node.search_of_chooses hwhole)

theorem captures?_eq_none {source path : String} (htail : Ends path.toList.toArray tail H)
    (h : ¬Leads H atoms path.toList) :
    (Regex.ofExpr source (wholeExpr atoms tail)).captures? path = none := by
  have hsearch : Regex.search (wholeExpr atoms tail).expand.program path.toList.toArray = none := by
    rw [← Option.not_isSome_iff_eq_none, Regex.isSome_search_iff]
    rintro ⟨i, k, w, hi, hmatch⟩
    cases (Expr.matches_sequence_iff _).mp hmatch with
    | cons hstart hrest =>
      obtain ⟨-, rfl, hbefore⟩ := matches_textStart_iff.mp hstart
      obtain rfl := eq_zero_of_before?_eq_none hi hbefore
      exact h ((exists_matchesAll_iff htail 1 hi).mp ⟨k, _, hrest⟩)
  exact congrArg (Option.map _) hsearch

/-! ## Groups -/

/-- The names of the captures, in order. -/
def captureNames : List Atom → List String
  | [] => []
  | capture name :: atoms => String.ofList name :: captureNames atoms
  | _ :: atoms => captureNames atoms

theorem length_captureNames (atoms : List Atom) :
    (captureNames atoms).length = groupCount atoms := by
  induction atoms with
  | nil => rfl
  | cons a atoms ih =>
    rw [groupCount_cons, ← ih]
    cases a with
    | capture name => exact Nat.add_comm _ 1
    | _ => exact (Nat.zero_add _).symm

theorem groups_exprs (atoms : List Atom) : ∀ index, (exprs index atoms).flatMap Expr.groups =
    Regex.numbered index ((captureNames atoms).map some) := by
  induction atoms with
  | nil => exact fun _ => rfl
  | cons a atoms ih =>
    intro index
    rw [exprs, List.flatMap_cons, ih]
    cases a <;> rfl

theorem groups_wholeExpr (tail : List Expr) {n : Nat}
    (htail : tail.flatMap Expr.groups =
      Regex.numbered (groupCount atoms + 1) (List.replicate n none)) :
    (wholeExpr atoms tail).groups =
      Regex.numbered 1 ((captureNames atoms).map some ++ List.replicate n none) := by
  rw [wholeExpr, Expr.groups_sequence, List.flatMap_cons, List.flatMap_append, groups_exprs, htail,
    Regex.numbered_append, List.length_map, length_captureNames, Nat.add_comm 1]
  rfl

/-! ## Captured words -/

theorem mem_slotsAll {e : Nat × Nat} :
    ∀ {atoms : List Atom} {us : List (List Char)} {index i : Nat},
    e ∈ slotsAll index i atoms us → 2 * index ≤ e.1 ∧ e.1 < 2 * (index + groupCount atoms)
  | a :: atoms, u :: us, index, i, h => by
    rw [groupCount_cons]
    obtain h | h := List.mem_append.mp h
    · have hrest := mem_slotsAll h
      omega
    · cases a with
      | capture name =>
        simp only [slots, List.mem_cons, List.not_mem_nil, or_false] at h
        simp only [groups]
        obtain rfl | rfl := h <;> omega
      | _ => cases h
  | [], _, _, _, h => by cases h
  | _ :: _, [], _, _, h => by cases h

/-- The groups of captures hold the words that were picked, if no positions of these groups were
stored later. -/
theorem group_eq_values {c : Regex.Captures} (hpicks : Picks H atoms s us r) :
    ∀ {index i : Nat} {later earlier : List (Nat × Nat)}, c.text.toList.drop i = s →
      c.slots = later ++ (slotsAll index i atoms us ++ earlier) →
      (∀ e ∈ later, e.1 < 2 * index ∨ 2 * (index + groupCount atoms) ≤ e.1) →
      ((captureNames atoms).zipIdx index).map (fun g => (g.1, (c.group? g.2).getD "")) =
        values atoms us := by
  induction hpicks with
  | nil => exact fun _ _ _ => rfl
  | @cons a atoms u s r us _ _ _ ih =>
    intro index i later earlier hs hslots hlater
    have hrest : c.text.toList.drop (i + u.length) = s := by
      rw [← List.drop_drop, hs, List.drop_left]
    rw [slotsAll, List.append_assoc] at hslots
    rw [groupCount_cons] at hlater
    have hmore := ih hrest hslots fun e he => by
      have := hlater e he
      omega
    cases a with
    | capture name =>
      have hgroup : c.group? index = some (String.ofList u) := by
        rw [← List.append_assoc] at hslots
        rw [Regex.Captures.group?_of_slots hslots, hs, Nat.add_sub_cancel_left, List.take_left]
        intro e he
        obtain he | he := List.mem_append.mp he
        · have hkey := hlater e he
          simp only [groups] at hkey
          omega
        · have hkey := mem_slotsAll he
          simp only [groups] at hkey
          omega
      simp only [captureNames, List.zipIdx_cons, List.map_cons, values, hgroup]
      exact congrArg _ hmore
    | _ => exact hmore

end Atom

/-! ## Matches of patterns -/

variable {H : List Char → Prop} {atoms : List Atom} {us : List (List Char)} {r : List Char}

/-- A match of the atoms writes the words that they pick into the variables. -/
theorem capture_of_picks {p : Pattern} {c : Regex.Captures} {n : Nat} (later : List (Nat × Nat))
    (hgroups : p.regex.groupNames =
      (Atom.captureNames atoms).map some ++ List.replicate n none)
    (hpicks : Atom.Picks H atoms c.text.toList us r)
    (hslots : c.slots = later ++ (Atom.slotsAll 1 0 atoms us ++ [(0, 0)]))
    (hlater : ∀ e ∈ later, e.1 < 2 ∨ 2 * (1 + Atom.groupCount atoms) ≤ e.1) (vars : Vars) :
    p.capture c vars = (Atom.values atoms us).foldl (fun d e => d.insert e.1 e.2) vars := by
  rw [capture, Regex.namedGroups_eq hgroups, ← Atom.group_eq_values hpicks rfl hslots hlater,
    List.foldl_map]

variable {p : Pattern} {source path : String}

theorem matchVars?_of_picks (hp : p.regex = .ofExpr source (Atom.exactExpr atoms))
    (hpicks : Atom.Picks Atom.Slashes atoms path.toList us r) (vars : Vars) :
    p.matchVars? path vars =
      some ((Atom.values atoms us).foldl (fun d e => d.insert e.1 e.2) vars) := by
  let text := path.toList.toArray
  have hend : ∀ j ≤ text.size, text.toList.drop j = r →
      Expr.ChoosesAll text (fun _ => True) Atom.exactTail j text.size [] :=
    fun j hj hr => Atom.chooses_exactTail hpicks.divides.2.2 hj hr
  have hcaptures : p.regex.captures? path =
      some ⟨text, (1, text.size) :: (Atom.slotsAll 1 0 atoms us ++ [(0, 0)])⟩ := by
    rw [hp]
    exact Atom.captures?_of_picks (Atom.ends_exactTail text) hpicks hend
  have hgroups : p.regex.groupNames =
      (Atom.captureNames atoms).map some ++ List.replicate 0 none := by
    rw [hp]
    exact Regex.groupNames_ofExpr (Atom.groups_wholeExpr Atom.exactTail rfl)
  rw [matchVars?, hcaptures]
  exact congrArg some (capture_of_picks [(1, text.size)] hgroups hpicks rfl (by simp) vars)

theorem matchVars?_eq_none (hp : p.regex = .ofExpr source (Atom.exactExpr atoms))
    (h : ¬Atom.Leads Atom.Slashes atoms path.toList) (vars : Vars) :
    p.matchVars? path vars = none := by
  have hcaptures : p.regex.captures? path = none := by
    rw [hp]
    exact Atom.captures?_eq_none (Atom.ends_exactTail _) h
  rw [matchVars?, hcaptures]
  rfl

theorem matchPrefix?_of_picks (hmode : p.mode = .mount)
    (hp : p.regex = .ofExpr source (Atom.mountExpr atoms))
    (hpicks : Atom.Picks Atom.Suffix atoms path.toList us r) (vars : Vars) :
    p.matchPrefix? path vars = some (Path.clean (String.ofList r),
      (Atom.values atoms us).foldl (fun d e => d.insert e.1 e.2) vars) := by
  let text := path.toList.toArray
  let index := Atom.groupCount atoms + 1
  let suffix := [(2 * index + 1, text.size), (2 * index, text.size - r.length)]
  obtain ⟨hs, -, hsuffix⟩ := hpicks.divides
  have hend : ∀ j ≤ text.size, text.toList.drop j = r →
      Expr.ChoosesAll text (fun _ => True) (Atom.mountTail index) j text.size suffix := by
    intro j hj hr
    obtain rfl : text.size - r.length = j := by
      have hlength := (Atom.spans_rest hj hr).2
      omega
    exact Atom.chooses_mountTail index hsuffix hj hr
  let c : Regex.Captures :=
    ⟨text, (1, text.size) :: (suffix ++ Atom.slotsAll 1 0 atoms us ++ [(0, 0)])⟩
  have hcaptures : p.regex.captures? path = some c := by
    rw [hp]
    exact Atom.captures?_of_picks (Atom.ends_mountTail text index) hpicks hend
  have hgroups : p.regex.groupNames =
      (Atom.captureNames atoms).map some ++ List.replicate 1 none := by
    rw [hp]
    exact Regex.groupNames_ofExpr (Atom.groups_wholeExpr (Atom.mountTail index) rfl)
  have hlast : p.regex.groupNames.length = index := by
    rw [hgroups, List.length_append, List.length_map, Atom.length_captureNames]
    rfl
  have hrest : (path.toList.drop (text.size - r.length)).take
      (text.size - (text.size - r.length)) = r := by
    have hsize : text.size = us.flatten.length + r.length := by
      rw [← List.length_append, ← hs]
      rfl
    rw [hs, List.drop_left' (by omega), List.take_of_length_le (by omega)]
  have hgroup : c.group? index = some (String.ofList r) := by
    have hlater : ∀ e ∈ [(1, text.size)], e.1 ≠ 2 * index ∧ e.1 ≠ 2 * index + 1 := by
      simp [index]
      omega
    refine (Regex.Captures.group?_of_slots rfl hlater).trans ?_
    exact congrArg (some ∘ String.ofList) hrest
  have hlater : ∀ e ∈ (1, text.size) :: suffix,
      e.1 < 2 ∨ 2 * (1 + Atom.groupCount atoms) ≤ e.1 := by
    simp [suffix, index]
    omega
  have hcapture : p.capture c vars = _ :=
    capture_of_picks ((1, text.size) :: suffix) hgroups hpicks rfl hlater vars
  rw [matchPrefix?, hmode]
  simp only [hcaptures, hlast, Option.map_some, hgroup, hcapture, Option.getD_some]

theorem matchPrefix?_eq_none (hp : p.regex = .ofExpr source (Atom.mountExpr atoms))
    (h : ¬Atom.Leads Atom.Suffix atoms path.toList) (vars : Vars) :
    p.matchPrefix? path vars = none := by
  have hcaptures : p.regex.captures? path = none := by
    rw [hp]
    exact Atom.captures?_eq_none (Atom.ends_mountTail _ _) h
  rw [matchPrefix?, hcaptures]
  cases p.mode <;> rfl

end Pattern

end Signpost
