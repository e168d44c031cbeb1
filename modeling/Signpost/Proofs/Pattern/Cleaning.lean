import Signpost.Proofs.Path.Spelling
import Signpost.Proofs.Pattern.Grammar

/-!
# Cleaning patterns

A pattern is cleaned as a path is, and cleaning sees slashes but no braces. So it leaves the
captures of a pattern alone (`Pattern.hasCaptures_clean`) if they are steady (`Pattern.Steady`):
what stands between two slashes inside a capture is an element, and what stands behind a capture
does not lead above it. The pattern of a route text then has the captures that were written
(`RouteSpec.parse_keeps_captures`). Other captures are changed or torn apart
(`RouteSpec.parse_not_keeps_captures`).
-/

namespace Signpost

namespace Pattern

open Signpost.Path (IsElement Stays walk)

/-! ## Captures and how they are written -/

/-- What stands between the braces of a capture. -/
def Token.body? : Token → Option (List Char)
  | .named name none => some name
  | .named name (some sub) => some (name ++ ':' :: sub)
  | .anonymous sub => some (':' :: sub)
  | _ => none

/-- How a token is written. -/
def Token.text : Token → List Char
  | .char c => [c]
  | .segment => ['*']
  | .rest => ['*', '*']
  | .named name none => '\x7b' :: (name ++ ['\x7d'])
  | .named name (some sub) => '\x7b' :: (name ++ ':' :: sub ++ ['\x7d'])
  | .anonymous sub => '\x7b' :: ':' :: (sub ++ ['\x7d'])

/-- The captures of a pattern, in order, each with its name and its sub-pattern. -/
def captures (ts : List Token) : List Token := ts.filter (·.body?.isSome)

theorem Capture.body?_eq {body : List Char} {t : Token} (h : Capture body t) :
    t.body? = some body := by
  cases h <;> rfl

theorem Capture.text_eq {body : List Char} {t : Token} (h : Capture body t) :
    t.text = '\x7b' :: (body ++ ['\x7d']) := by
  cases h <;> rfl

theorem Spells.text_eq {s : List Char} {ts : List Token} (h : Spells s ts) :
    ts.flatMap Token.text = s := by
  induction h with
  | nil => rfl
  | char _ _ ih | segment _ _ ih | rest _ ih =>
    rw [List.flatMap_cons, ih]
    rfl
  | capture _ ht _ ih =>
    rw [List.flatMap_cons, ih, ht.text_eq, List.cons_append, List.append_assoc,
      List.singleton_append]

theorem captures_cons_of_body? {t : Token} {body : List Char} (h : t.body? = some body)
    (ts : List Token) : captures (t :: ts) = t :: captures ts :=
  List.filter_cons_of_pos (by simp [h])

theorem tokenNames_captures (ts : List Token) : tokenNames (captures ts) = tokenNames ts := by
  induction ts with
  | nil => rfl
  | cons t ts ih =>
    rw [tokenNames, tokenNames] at ih
    rw [captures, List.filter_cons, tokenNames, tokenNames, List.filterMap_cons, ← ih]
    cases t with
    | named name sub => cases sub <;> rfl
    | _ => rfl

/-! ## Steady captures -/

/-- Cleaning leaves the captures alone: between two slashes inside of them stand elements, and what
is behind them does not lead above them. -/
def Steady : List Token → Prop
  | [] => True
  | t :: ts =>
    (∀ body ∈ t.body?, (∀ e ∈ (Text.split '/' body).tail.dropLast, IsElement e) ∧
      Stays 0 (Text.split '/' (ts.flatMap Token.text)).tail) ∧ Steady ts

instance decidableSteady : DecidablePred Steady
  | [] => .isTrue trivial
  | t :: ts =>
    have := decidableSteady ts
    inferInstanceAs (Decidable ((∀ body ∈ t.body?,
      (∀ e ∈ (Text.split '/' body).tail.dropLast, IsElement e) ∧
        Stays 0 (Text.split '/' (ts.flatMap Token.text)).tail) ∧ Steady ts))

variable {s piece : List Char} {pieces : List (List Char)} {ts : List Token}

/-- The pieces of a capture and of what is behind it: the first begins with the brace, the others
that the capture has a part in are elements. -/
theorem split_capture {body : List Char}
    (hbody : ∀ e ∈ (Text.split '/' body).tail.dropLast, IsElement e)
    (h : Text.split '/' s = piece :: pieces) :
    ∃ first es, Text.split '/' ('\x7b' :: (body ++ '\x7d' :: s)) =
        ('\x7b' :: first) :: (es ++ pieces) ∧ ∀ e ∈ es, IsElement e := by
  obtain ⟨first, rest, hsplit⟩ := Text.exists_split_eq '/' body
  have hopen : Text.split '/' ('\x7b' :: body) = ('\x7b' :: first) :: rest :=
    Text.split_cons_of_ne (by decide) hsplit
  have hclose : Text.split '/' ('\x7d' :: s) = ('\x7d' :: piece) :: pieces :=
    Text.split_cons_of_ne (by decide) h
  rw [hsplit, List.tail_cons] at hbody
  obtain rfl | ⟨inner, last, rfl⟩ := List.eq_nil_or_concat' rest
  · have hopen : Text.split '/' ('\x7b' :: body) = [] ++ ['\x7b' :: first] := hopen
    exact ⟨first ++ '\x7d' :: piece, [], Text.split_append_of_eq hopen hclose, nofun⟩
  · rw [List.dropLast_concat] at hbody
    refine ⟨first, inner ++ [last ++ '\x7d' :: piece], ?_, ?_⟩
    · rw [← List.cons_append] at hopen
      rw [← List.cons_append, Text.split_append_of_eq hopen hclose]
      simp
    · have hmemlast : last ∈ Text.split '/' body := by simp [hsplit]
      have hlast : '/' ∉ last := Text.not_mem_of_mem_split hmemlast
      have hpiece : '/' ∉ piece := Text.not_mem_of_mem_split (h ▸ List.mem_cons_self)
      have hmem : '\x7d' ∈ last ++ '\x7d' :: piece := by simp
      have hjoined : IsElement (last ++ '\x7d' :: piece) :=
        Path.isElement_of_mem hmem (by decide) (by simp [hlast, hpiece])
      intro e he
      obtain he | he := List.mem_append.mp he
      · exact hbody e he
      · exact List.mem_singleton.mp he ▸ hjoined

/-- A character before a capture is part of the same piece, or the piece has no capture. -/
theorem stays_of_split_cons {c : Char} (hc : c ≠ '\x7b')
    (h : ∀ {piece pieces}, Text.split '/' s = piece :: pieces → '\x7b' ∈ piece → Stays 0 pieces)
    (hsplit : Text.split '/' (c :: s) = piece :: pieces) (hmem : '\x7b' ∈ piece) :
    Stays 0 pieces := by
  by_cases hslash : c = '/'
  · rw [Text.split, if_pos hslash] at hsplit
    rw [← (List.cons.inj hsplit).1] at hmem
    cases hmem
  · obtain ⟨first, rest, hrest⟩ := Text.exists_split_eq '/' s
    obtain ⟨rfl, rfl⟩ := List.cons.inj ((Text.split_cons_of_ne hslash hrest).symm.trans hsplit)
    exact h hrest ((List.mem_cons.mp hmem).resolve_left (Ne.symm hc))

/-- The pieces behind one that a capture begins in do not lead above it. -/
theorem Spells.stays_of_mem (h : Spells s ts) (hsteady : Steady ts)
    (hsplit : Text.split '/' s = piece :: pieces) (hmem : '\x7b' ∈ piece) : Stays 0 pieces := by
  induction h generalizing piece pieces with
  | nil =>
    rw [← (List.cons.inj hsplit).1] at hmem
    cases hmem
  | char hc _ ih => exact stays_of_split_cons hc.2.1 (ih hsteady.2) hsplit hmem
  | segment _ _ ih => exact stays_of_split_cons (by decide) (ih hsteady.2) hsplit hmem
  | rest _ ih =>
    refine stays_of_split_cons (by decide) (fun hsplit hmem => ?_) hsplit hmem
    exact stays_of_split_cons (by decide) (ih hsteady.2) hsplit hmem
  | @capture body s t ts _ ht h ih =>
    obtain ⟨hbody, hstays⟩ := hsteady.1 body ht.body?_eq
    obtain ⟨behind, after, hafter⟩ := Text.exists_split_eq '/' s
    obtain ⟨first, es, hpieces, hes⟩ := split_capture hbody hafter
    rw [h.text_eq, hafter, List.tail_cons] at hstays
    obtain ⟨-, rfl⟩ := List.cons.inj (hsplit.symm.trans hpieces)
    exact hstays.append hes

/-! ## Cleaning -/

/-- What no capture begins in may be left out at the start of a text. -/
theorem Spells.of_append {before behind : List Char} (h : Spells (before ++ behind) ts)
    (hbefore : '\x7b' ∉ before) (hbehind : behind.head? ≠ some '*') :
    ∃ ts', Spells behind ts' ∧ captures ts' = captures ts := by
  generalize htext : before ++ behind = text at h
  induction h generalizing before with
  | nil =>
    obtain ⟨-, rfl⟩ := List.append_eq_nil_iff.mp htext
    exact ⟨[], .nil, rfl⟩
  | @char c s ts hc h ih =>
    cases before with
    | nil =>
      obtain rfl : behind = c :: s := htext
      exact ⟨.char c :: ts, .char hc h, rfl⟩
    | cons d before =>
      obtain ⟨-, hrest⟩ := List.cons.inj htext
      exact ih (fun hmem => hbefore (List.mem_cons_of_mem _ hmem)) hrest
  | segment _ _ ih =>
    cases before with
    | nil => exact absurd (congrArg List.head? htext) hbehind
    | cons d before =>
      obtain ⟨-, hrest⟩ := List.cons.inj htext
      exact ih (fun hmem => hbefore (List.mem_cons_of_mem _ hmem)) hrest
  | rest _ ih =>
    match before with
    | [] => exact absurd (congrArg List.head? htext) hbehind
    | [d] => exact absurd (congrArg List.head? (List.cons.inj htext).2) hbehind
    | d :: e :: before =>
      obtain ⟨-, hrest⟩ := List.cons.inj (List.cons.inj htext).2
      exact ih (fun hmem => hbefore (List.mem_cons_of_mem _ (List.mem_cons_of_mem _ hmem))) hrest
  | @capture body s t ts hbody ht h ih =>
    cases before with
    | nil =>
      obtain rfl : behind = '\x7b' :: (body ++ '\x7d' :: s) := htext
      exact ⟨t :: ts, .capture hbody ht h, rfl⟩
    | cons d before =>
      obtain ⟨rfl, -⟩ := List.cons.inj htext
      exact absurd List.mem_cons_self hbefore

/-- The text with everything cleaned that is behind its first slash. -/
def cleanBehind (s : List Char) : List Char :=
  match Text.split '/' s with
  | [] => []
  | piece :: pieces => piece ++ (walk [] pieces).flatMap ('/' :: ·)

theorem cleanBehind_of_split (h : Text.split '/' s = piece :: pieces) :
    cleanBehind s = piece ++ (walk [] pieces).flatMap ('/' :: ·) := by
  rw [cleanBehind, h]

theorem cleanBehind_cons_of_ne {c : Char} (hc : c ≠ '/') (s : List Char) :
    cleanBehind (c :: s) = c :: cleanBehind s := by
  obtain ⟨piece, pieces, h⟩ := Text.exists_split_eq '/' s
  rw [cleanBehind_of_split h, cleanBehind_of_split (Text.split_cons_of_ne hc h), List.cons_append]

theorem cleanBehind_slash (s : List Char) :
    cleanBehind ('/' :: s) = (walk [] (Text.split '/' s)).flatMap ('/' :: ·) := by
  rw [cleanBehind, Text.split_cons_self]
  rfl

theorem head?_flatMap_slash (es : List (List Char)) :
    (es.flatMap ('/' :: ·)).head? ≠ some '*' := by
  cases es <;> simp

theorem head?_cleanBehind (h : s.head? ≠ some '*') : (cleanBehind s).head? ≠ some '*' := by
  cases s with
  | nil => exact nofun
  | cons c s =>
    by_cases hc : c = '/'
    · rw [hc, cleanBehind_slash]
      exact head?_flatMap_slash _
    · rw [cleanBehind_cons_of_ne hc]
      exact h

/-- A capture is kept if the pieces inside it are elements and what is behind it does not lead
above it. -/
theorem cleanBehind_capture {body : List Char}
    (hbody : ∀ e ∈ (Text.split '/' body).tail.dropLast, IsElement e)
    (hstays : Stays 0 (Text.split '/' s).tail) :
    cleanBehind ('\x7b' :: (body ++ '\x7d' :: s)) =
      '\x7b' :: (body ++ '\x7d' :: cleanBehind s) := by
  obtain ⟨piece, pieces, h⟩ := Text.exists_split_eq '/' s
  obtain ⟨first, es, hpieces, hes⟩ := split_capture hbody h
  rw [h, List.tail_cons] at hstays
  have hwritten :
      '\x7b' :: first ++ es.flatMap ('/' :: ·) = '\x7b' :: (body ++ '\x7d' :: piece) := by
    have htext := Text.eq_append_of_split hpieces
    rw [List.flatMap_append, ← List.append_assoc] at htext
    refine (List.append_left_inj (pieces.flatMap ('/' :: ·))).mp (htext.symm.trans ?_)
    rw [Text.eq_append_of_split h]
    simp
  rw [cleanBehind_of_split hpieces, cleanBehind_of_split h,
    Path.walk_append_of_isElement hes hstays, List.flatMap_append, ← List.append_assoc, hwritten]
  simp

/-- A piece that a capture begins in is kept. Of the others, each is kept or left out. -/
theorem Spells.walk_cons (h : Spells s ts) (hsteady : Steady ts)
    (hsplit : Text.split '/' s = piece :: pieces) :
    walk [] (piece :: pieces) = walk [] pieces ∧ '\x7b' ∉ piece ∨
      walk [] (piece :: pieces) = piece :: walk [] pieces := by
  by_cases hmem : '\x7b' ∈ piece
  · have hslash : '/' ∉ piece := Text.not_mem_of_mem_split (hsplit ▸ List.mem_cons_self)
    have helement : IsElement piece := Path.isElement_of_mem hmem (by decide) hslash
    exact .inr (Path.walk_append_of_isElement (List.forall_mem_singleton.mpr helement)
      (h.stays_of_mem hsteady hsplit hmem))
  · exact (Path.walk_cons_eq_or piece pieces).imp_left fun hdropped => ⟨hdropped, hmem⟩

/-- Behind the first slash of a text, cleaning keeps the captures. -/
theorem Spells.cleanBehind (h : Spells s ts) (hsteady : Steady ts) :
    ∃ ts', Spells (cleanBehind s) ts' ∧ captures ts' = captures ts := by
  induction h with
  | nil => exact ⟨[], .nil, rfl⟩
  | @char c s ts hc h ih =>
    obtain ⟨ts', hspells, hcaptures⟩ := ih hsteady.2
    by_cases hslash : c = '/'
    · subst hslash
      obtain ⟨piece, pieces, hpieces⟩ := Text.exists_split_eq '/' s
      rw [cleanBehind_of_split hpieces] at hspells
      rw [cleanBehind_slash, hpieces]
      obtain ⟨hdropped, hmem⟩ | hkept := h.walk_cons hsteady.2 hpieces
      · obtain ⟨ts'', hspells', hcaptures'⟩ := hspells.of_append hmem (head?_flatMap_slash _)
        rw [hdropped]
        exact ⟨ts'', hspells', hcaptures'.trans hcaptures⟩
      · rw [hkept, List.flatMap_cons, List.cons_append]
        exact ⟨.char '/' :: ts', .char hc hspells, hcaptures⟩
    · rw [cleanBehind_cons_of_ne hslash]
      exact ⟨.char c :: ts', .char hc hspells, hcaptures⟩
  | segment hs _ ih =>
    obtain ⟨ts', hspells, hcaptures⟩ := ih hsteady.2
    rw [cleanBehind_cons_of_ne (by decide)]
    exact ⟨.segment :: ts', .segment (head?_cleanBehind hs) hspells, hcaptures⟩
  | rest _ ih =>
    obtain ⟨ts', hspells, hcaptures⟩ := ih hsteady.2
    rw [cleanBehind_cons_of_ne (by decide), cleanBehind_cons_of_ne (by decide)]
    exact ⟨.rest :: ts', .rest hspells, hcaptures⟩
  | @capture body s t ts hbody ht h ih =>
    obtain ⟨ts', hspells, hcaptures⟩ := ih hsteady.2
    obtain ⟨hinside, hstays⟩ := hsteady.1 body ht.body?_eq
    rw [h.text_eq] at hstays
    rw [cleanBehind_capture hinside hstays]
    refine ⟨t :: ts', .capture hbody ht hspells, ?_⟩
    rw [captures_cons_of_body? ht.body?_eq, captures_cons_of_body? ht.body?_eq, hcaptures]

/-- A pattern that begins with a slash keeps its captures, if they are steady. -/
theorem Spells.ofElements_elements (h : Spells s ts) (hsteady : Steady ts)
    (hroot : s.head? = some '/') :
    ∃ ts', Spells (Path.ofElements (Path.elements s)) ts' ∧ captures ts' = captures ts := by
  obtain ⟨ts', hspells, hcaptures⟩ := h.cleanBehind hsteady
  obtain ⟨t, rfl⟩ := List.head?_eq_some_iff.mp hroot
  rw [cleanBehind_slash, ← Path.elements_cons_slash] at hspells
  by_cases hnil : Path.elements ('/' :: t) = []
  · rw [hnil] at hspells ⊢
    cases hspells
    exact ⟨[.char '/'], .char (by decide) .nil, hcaptures⟩
  · rw [Path.ofElements_eq_flatMap hnil]
    exact ⟨ts', hspells, hcaptures⟩

/-- The text is read as a pattern, with these captures. -/
def HasCaptures (pattern : String) (found : List Token) : Prop :=
  (tokens [] pattern.toList).map captures = .ok found

instance (pattern : String) (found : List Token) : Decidable (HasCaptures pattern found) :=
  inferInstanceAs (Decidable (_ = _))

/-- Steady captures are read from the cleaned text as they were from the text itself. -/
theorem hasCaptures_clean {pattern : String} (h : Spells pattern.toList ts) (hfresh : Fresh [] ts)
    (hsteady : Steady ts) (hroot : pattern.toList.head? = some '/') :
    HasCaptures (Path.clean pattern) (captures ts) := by
  obtain ⟨ts', hspells', hcaptures⟩ := h.ofElements_elements hsteady hroot
  have hnames : tokenNames ts' = tokenNames ts := by
    rw [← tokenNames_captures, hcaptures, tokenNames_captures]
  have htokens : tokens [] (Path.clean pattern).toList = .ok ts' := by
    refine tokens_eq_ok_iff.mpr ⟨?_, ?_⟩
    · rwa [Path.toList_clean]
    · rwa [Fresh, hnames]
  rw [HasCaptures, htokens, ← hcaptures]
  rfl

/-- Blanks at the end of a pattern are no part of a capture. -/
theorem Spells.trimEnd (h : Spells s ts) :
    Spells (Text.trimEnd s) (ts.rdropWhile (Token.isChar Text.isBlank)) := by
  refine h.rdropWhile fun c hc => ⟨?_, ?_, ?_⟩ <;>
  · rintro rfl
    exact absurd hc (by decide)

theorem captures_rdropWhile (p : Char → Bool) (ts : List Token) :
    captures (ts.rdropWhile (Token.isChar p)) = captures ts := by
  induction ts using List.reverseRecOn with
  | nil => rfl
  | append_singleton ts t ih =>
    rw [List.rdropWhile_concat]
    split
    · next ht =>
      have hbody : t.body?.isSome = false := by
        cases t with
        | char c => rfl
        | _ => cases ht
      rw [ih, captures, captures, List.filter_append, List.filter_singleton, hbody]
      simp
    · rfl

/-- A pattern that is trimmed and then cleaned keeps its captures, if they are steady. -/
theorem hasCaptures_clean_trimEnd {pattern : String} (hroot : pattern.toList.head? = some '/')
    (hts : tokens [] pattern.toList = .ok ts)
    (hsteady : Steady (ts.rdropWhile (Token.isChar Text.isBlank))) :
    HasCaptures (Path.clean (String.ofList (Text.trimEnd pattern.toList))) (captures ts) := by
  obtain ⟨hspells, hnodup, hnew⟩ := tokens_eq_ok_iff.mp hts
  have hnames : tokenNames (ts.rdropWhile (Token.isChar Text.isBlank)) = tokenNames ts := by
    rw [← tokenNames_captures, captures_rdropWhile, tokenNames_captures]
  rw [← captures_rdropWhile Text.isBlank ts]
  refine hasCaptures_clean ?_ ⟨hnames.symm ▸ hnodup, hnames.symm ▸ hnew⟩ hsteady ?_
  · rw [String.toList_ofList]
    exact hspells.trimEnd
  · rw [String.toList_ofList]
    exact Text.head?_trimEnd hroot (by decide)

end Pattern

namespace RouteSpec

open Pattern

/-- Let the captures of a pattern be steady once the blanks at its end are taken off. Then behind
any list of methods, and also alone if there is no blank inside, the captures are read as they are
written, and the methods in upper case. -/
theorem parse_keeps_captures {pattern : String} {ts : List Token}
    (hroot : pattern.toList.head? = some '/') (hts : tokens [] pattern.toList = .ok ts)
    (hsteady : Steady (ts.rdropWhile (Token.isChar Text.isBlank))) :
    (∀ methods, methods ≠ [] → (∀ method ∈ methods, IsEntry method) →
      let spec := parse (",".intercalate methods ++ " " ++ pattern)
      spec.methods = methods.map (fun method => String.ofList (upperAscii method.toList)) ∧
        HasCaptures spec.pattern (captures ts)) ∧
    (' ' ∉ Text.trim pattern.toList →
      let spec := parse pattern
      spec.methods = [anyMethod] ∧ HasCaptures spec.pattern (captures ts)) := by
  have hblank : Text.isBlank '/' = false := by decide
  have htrim : Text.trim pattern.toList = Text.trimEnd pattern.toList := by
    refine Text.trim_eq_trimEnd fun c hc => ?_
    rw [hroot] at hc
    exact Option.some.inj hc ▸ hblank
  have hkept : HasCaptures (Path.clean (String.ofList (Text.trimEnd pattern.toList)))
      (captures ts) := hasCaptures_clean_trimEnd hroot hts hsteady
  refine ⟨fun methods hne hmethods => ?_, fun hinside => ?_⟩
  · rw [parse_list hne hmethods hroot hblank]
    exact ⟨rfl, hkept⟩
  · rw [parse_of_not_mem hinside, htrim]
    exact ⟨rfl, hkept⟩

theorem parse_keeps_captures_wandering :
    let pattern := "//a/./../\x7bx:b/c/d\x7d//\x7by\x7d*/e/.. "
    let found : List Token := [.named ['x'] (some "b/c/d".toList), .named ['y'] none]
    (parse ("get,Post" ++ " " ++ pattern)).methods = ["GET", "POST"] ∧
      HasCaptures (parse ("get,Post" ++ " " ++ pattern)).pattern found ∧
      HasCaptures (parse pattern).pattern found := by
  intro pattern found
  have hts : tokens [] pattern.toList = .ok ("//a/./../".toList.map .char ++
      [.named ['x'] (some "b/c/d".toList), .char '/', .char '/', .named ['y'] none, .segment] ++
      "/e/.. ".toList.map .char) := by
    decide +kernel
  have hmethods : ∀ method ∈ ["get", "Post"], IsEntry method :=
    List.forall_mem_cons.mpr ⟨isEntry_name ⟨"get", by decide⟩,
      List.forall_mem_singleton.mpr (isEntry_name ⟨"Post", by decide⟩)⟩
  obtain ⟨hlist, halone⟩ := parse_keeps_captures (by decide +kernel) hts (by decide +kernel)
  obtain ⟨hread, hfound⟩ := hlist ["get", "Post"] (by decide) hmethods
  exact ⟨hread, hfound, (halone (by decide +kernel)).2⟩

/-- Slashes and blanks inside of a capture are taken for those of the route text, and a capture can
be led above. -/
theorem parse_not_keeps_captures :
    (HasCaptures "/\x7bx:a//b\x7d" [.named ['x'] (some "a//b".toList)] ∧
      ¬HasCaptures (parse "/\x7bx:a//b\x7d").pattern [.named ['x'] (some "a//b".toList)]) ∧
    (HasCaptures "/\x7bx:a b\x7d" [.named ['x'] (some "a b".toList)] ∧
      ¬HasCaptures (parse "/\x7bx:a b\x7d").pattern [.named ['x'] (some "a b".toList)]) ∧
    HasCaptures "/\x7bx\x7d/../b" [.named ['x'] none] ∧
      ¬HasCaptures (parse "/\x7bx\x7d/../b").pattern [.named ['x'] none] := by
  decide +kernel

end RouteSpec

end Signpost
