import Signpost.Proofs.Pattern.Enclosing
import Signpost.Proofs.RouteSpec
import Mathlib.Data.List.DropRight

/-!
# The grammar of patterns

A pattern is well formed (`Pattern.WellFormed`) if it is written with tokens, one after the other,
and no two of its captures have the same name. How a token is written is said by rules of its own
(`Pattern.Spells`, `Pattern.Capture`, `Pattern.Balanced`). The reader of patterns accepts exactly
this (`Pattern.tokens_eq_ok_iff`), and a pattern that is not malformed stands or falls with the
regular expression that its tokens are translated to (`Pattern.compile_iff_wellFormed`).
-/

namespace Signpost.Pattern

open Regex (bind_eq_ok_iff)

/-! ## Rules -/

/-- Every brace that is opened in the text is closed in it, and none else. A backslash takes the
character after it with it. -/
inductive Balanced : List Char → Prop
  | nil : Balanced []
  | char {c : Char} {s : List Char} (hc : c ≠ '\\' ∧ c ≠ '\x7b' ∧ c ≠ '\x7d') (h : Balanced s) :
      Balanced (c :: s)
  | pair {c : Char} {s : List Char} (h : Balanced s) : Balanced ('\\' :: c :: s)
  | braces {inner s : List Char} (hinner : Balanced inner) (h : Balanced s) :
      Balanced ('\x7b' :: (inner ++ '\x7d' :: s))

/-- An ASCII letter or an underscore. -/
def IsNameStart (c : Char) : Prop := 'A' ≤ c ∧ c ≤ 'Z' ∨ 'a' ≤ c ∧ c ≤ 'z' ∨ c = '_'

/-- A name begins with a letter or an underscore; digits may follow. -/
inductive Name : List Char → Prop
  | intro {c : Char} {rest : List Char} (hc : IsNameStart c)
      (hrest : ∀ d ∈ rest, IsNameStart d ∨ '0' ≤ d ∧ d ≤ '9') : Name (c :: rest)

/-- `Capture body t`: the token is written as a capture with the body. A name stands before the
first colon, a sub-pattern behind it, and neither may be empty where it is asked for. -/
inductive Capture : List Char → Token → Prop
  | name {name : List Char} (hname : Name name) : Capture name (.named name none)
  | sub {name sub : List Char} (hname : Name name) (hsub : sub ≠ []) :
      Capture (name ++ ':' :: sub) (.named name (some sub))
  | anonymous {sub : List Char} (hsub : sub ≠ []) : Capture (':' :: sub) (.anonymous sub)

/-- `Spells s ts`: the text is written with the tokens, from left to right. Two stars are one token
wherever they can be, and a capture goes up to the brace that closes it. -/
inductive Spells : List Char → List Token → Prop
  | nil : Spells [] []
  | char {c : Char} {s : List Char} {ts : List Token} (hc : c ≠ '*' ∧ c ≠ '\x7b' ∧ c ≠ '\x7d')
      (h : Spells s ts) : Spells (c :: s) (.char c :: ts)
  | segment {s : List Char} {ts : List Token} (hs : s.head? ≠ some '*') (h : Spells s ts) :
      Spells ('*' :: s) (.segment :: ts)
  | rest {s : List Char} {ts : List Token} (h : Spells s ts) :
      Spells ('*' :: '*' :: s) (.rest :: ts)
  | capture {body s : List Char} {t : Token} {ts : List Token} (hbody : Balanced body)
      (ht : Capture body t) (h : Spells s ts) :
      Spells ('\x7b' :: (body ++ '\x7d' :: s)) (t :: ts)

/-- The names of captures, in order. -/
def tokenNames (ts : List Token) : List (List Char) := ts.filterMap Token.name?

/-- The text is written with tokens, and no name is used twice. -/
def WellFormed (s : List Char) : Prop := ∃ ts, Spells s ts ∧ (tokenNames ts).Nodup

/-! ## Bodies of captures -/

theorem captureBody_open (depth : Nat) (s : List Char) : captureBody depth ('\x7b' :: s) =
    (captureBody (depth + 1) s).map fun (body, after) => ('\x7b' :: body, after) := by
  cases depth <;> rw [captureBody] <;> simp

theorem captureBody_close (depth : Nat) (s : List Char) : captureBody (depth + 1) ('\x7d' :: s) =
    (captureBody depth s).map fun (body, after) => ('\x7d' :: body, after) := by
  rw [captureBody] <;> simp

theorem captureBody_char {c : Char} (hc : c ≠ '\\' ∧ c ≠ '\x7b' ∧ c ≠ '\x7d') (depth : Nat)
    (s : List Char) : captureBody depth (c :: s) =
      (captureBody depth s).map fun (body, after) => (c :: body, after) := by
  cases depth <;> rw [captureBody] <;> simp [hc]

namespace Balanced

theorem append {s s' : List Char} (h : Balanced s) (h' : Balanced s') : Balanced (s ++ s') := by
  induction h with
  | nil => exact h'
  | char hc _ ih => exact .char hc ih
  | pair _ ih => exact .pair ih
  | braces hinner _ _ ih =>
    rw [List.cons_append, List.append_assoc, List.cons_append]
    exact .braces hinner ih

/-- A balanced text is read over, whatever the depth. -/
theorem captureBody_append {p : List Char} (h : Balanced p) : ∀ (depth : Nat) (s : List Char),
    captureBody depth (p ++ s) =
      (captureBody depth s).map fun found => (p ++ found.1, found.2) := by
  induction h with
  | nil => exact fun depth s => Option.map_id'.symm
  | char hc _ ih =>
    intro depth s
    rw [List.cons_append, captureBody_char hc, ih, Option.map_map]
    rfl
  | pair _ ih =>
    intro depth s
    rw [List.cons_append, List.cons_append, captureBody, ih, Option.map_map]
    rfl
  | @braces inner p _ _ ihinner ih =>
    intro depth s
    rw [List.cons_append, List.append_assoc, List.cons_append, captureBody_open, ihinner,
      captureBody_close, ih]
    simp [Option.map_map, Function.comp_def]

end Balanced

/-- The text closes as many braces as `depth` says that were opened before it, and is balanced
otherwise. -/
def Closes : (depth : Nat) → List Char → Prop
  | 0, s => Balanced s
  | depth + 1, s => ∃ p rest, Balanced p ∧ Closes depth rest ∧ s = p ++ '\x7d' :: rest

theorem Closes.append {depth : Nat} {p s : List Char} (hp : Balanced p) (h : Closes depth s) :
    Closes depth (p ++ s) := by
  cases depth with
  | zero => exact hp.append h
  | succ depth =>
    obtain ⟨q, rest, hq, hrest, rfl⟩ := h
    exact ⟨p ++ q, rest, hp.append hq, hrest, (List.append_assoc p q _).symm⟩

theorem Closes.of_captureBody {depth : Nat} {s body after : List Char}
    (h : captureBody depth s = some (body, after)) :
    Closes depth body ∧ s = body ++ '\x7d' :: after := by
  fun_induction captureBody depth s generalizing body after with
  | case1 | case2 => cases h
  | case3 depth c rest ih =>
    obtain ⟨⟨body, after⟩, hbody, ⟨⟩⟩ := Option.map_eq_some_iff.mp h
    obtain ⟨hcloses, rfl⟩ := ih hbody
    exact ⟨.append (.pair .nil) hcloses, rfl⟩
  | case4 depth rest _ _ ih =>
    obtain ⟨⟨body, after⟩, hbody, ⟨⟩⟩ := Option.map_eq_some_iff.mp h
    obtain ⟨⟨p, body, hp, hcloses, rfl⟩, rfl⟩ := ih hbody
    refine ⟨?_, rfl⟩
    have hbraces := hcloses.append (.braces hp .nil)
    rwa [List.cons_append, List.append_assoc, List.singleton_append] at hbraces
  | case5 rest =>
    cases h
    exact ⟨Balanced.nil, rfl⟩
  | case6 rest depth _ _ _ ih =>
    obtain ⟨⟨body, after⟩, hbody, ⟨⟩⟩ := Option.map_eq_some_iff.mp h
    obtain ⟨hcloses, rfl⟩ := ih hbody
    exact ⟨⟨[], body, .nil, hcloses, rfl⟩, rfl⟩
  | case7 depth c rest hend hpair hopen hclose ih =>
    obtain ⟨⟨body, after⟩, hbody, ⟨⟩⟩ := Option.map_eq_some_iff.mp h
    obtain ⟨hcloses, rfl⟩ := ih hbody
    have hback : c ≠ '\\' := by
      rintro rfl
      cases body with
      | nil => exact hpair '\x7d' after rfl rfl
      | cons d body => exact hpair d (body ++ '\x7d' :: after) rfl rfl
    exact ⟨.append (.char ⟨hback, hopen, hclose⟩ .nil) hcloses, rfl⟩

/-- The body of a capture is what is balanced before a closing brace. -/
theorem captureBody_eq_some_iff {s body after : List Char} :
    captureBody 0 s = some (body, after) ↔ Balanced body ∧ s = body ++ '\x7d' :: after := by
  constructor
  · exact Closes.of_captureBody
  · rintro ⟨hbody, rfl⟩
    rw [hbody.captureBody_append, captureBody]
    · simp
    · simp
    · simp

/-! ## Captures -/

theorem isName_iff {s : List Char} : isName s = true ↔ Name s := by
  have hstart : ∀ c : Char, (c.isAlpha || c == '_') = true ↔ IsNameStart c := by
    intro c
    simp [Text.isAlpha_iff, Text.isUpper_iff, Text.isLower_iff, IsNameStart, or_assoc]
  have hchar : ∀ c : Char, (c.isAlphanum || c == '_') = true ↔
      IsNameStart c ∨ '0' ≤ c ∧ c ≤ '9' := by
    intro c
    simp [Text.isAlphanum_iff, Text.isDigit_iff, ← hstart, or_right_comm]
  cases s with
  | nil =>
    refine ⟨fun h => ?_, fun h => ?_⟩
    · cases h
    · cases h
  | cons c rest =>
    simp only [isName, Bool.and_eq_true, hstart, List.all_eq_true, hchar]
    constructor
    · rintro ⟨hc, hrest⟩
      exact .intro hc hrest
    · rintro ⟨hc, hrest⟩
      exact ⟨hc, hrest⟩

/-- The names of the tokens are distinct and none of those that have been used before. -/
def Fresh (names : List (List Char)) (ts : List Token) : Prop :=
  (tokenNames ts).Nodup ∧ ∀ name ∈ tokenNames ts, name ∉ names

theorem fresh_cons_iff {names : List (List Char)} {t : Token} {ts : List Token} :
    Fresh names (t :: ts) ↔
      (∀ name, t.name? = some name → name ∉ names) ∧ Fresh (t.name?.toList ++ names) ts := by
  unfold Fresh tokenNames
  rw [List.filterMap_cons]
  cases t.name? with
  | none => simp
  | some name =>
    simp only [List.nodup_cons, List.mem_cons, forall_eq_or_imp, Option.some.injEq, forall_eq',
      Option.toList_some, List.singleton_append, not_or]
    constructor
    · rintro ⟨⟨hnot, hnodup⟩, hname, hrest⟩
      exact ⟨hname, hnodup, fun other hother => ⟨fun h => hnot (h ▸ hother), hrest other hother⟩⟩
    · rintro ⟨hname, hnodup, hrest⟩
      exact ⟨⟨fun h => (hrest name h).1 rfl, hnodup⟩, hname, fun other hother =>
        (hrest other hother).2⟩

theorem Fresh.cons_unnamed {names : List (List Char)} {t : Token} {ts : List Token}
    (hname : t.name? = none) (h : Fresh names ts) : Fresh names (t :: ts) := by
  refine fresh_cons_iff.mpr ⟨fun name hsome => ?_, ?_⟩
  · rw [hname] at hsome
    cases hsome
  · rwa [hname]

theorem captureToken_eq_ok_iff {names : List (List Char)} {body : List Char} {t : Token} :
    captureToken names body = .ok t ↔
      Capture body t ∧ ∀ name, t.name? = some name → name ∉ names := by
  have hchecked : ∀ name sub, (if !isName name then Except.error (Malformation.invalidName name)
      else if names.contains name then .error (.duplicateName name)
      else .ok (.named name sub)) = .ok t ↔ t = .named name sub ∧ Name name ∧ name ∉ names := by
    intro name sub
    rw [← isName_iff]
    cases isName name with
    | false => simp
    | true => by_cases hmem : name ∈ names <;> simp [hmem, eq_comm]
  unfold captureToken
  constructor
  · intro h
    dsimp only at h
    split at h
    · cases h
    · next name sub hsub hcut =>
      rw [Text.eq_of_cut? hcut]
      split at h
      · next hempty =>
        cases h
        obtain rfl := List.isEmpty_iff.mp hempty
        exact ⟨.anonymous fun hnil => hsub (hnil ▸ rfl), nofun⟩
      · obtain ⟨rfl, hname, hfresh⟩ := (hchecked _ _).mp h
        exact ⟨.sub hname fun hnil => hsub (hnil ▸ rfl), by rintro _ ⟨⟩; exact hfresh⟩
    · split at h
      · cases h
      · obtain ⟨rfl, hname, hfresh⟩ := (hchecked _ _).mp h
        exact ⟨.name hname, by rintro _ ⟨⟩; exact hfresh⟩
  · rintro ⟨hcapture, hfresh⟩
    cases hcapture with
    | name hname => exact captureToken_of_isName (isName_iff.mpr hname) (hfresh _ rfl)
    | @sub name sub hname hsub =>
      have hcolon : ':' ∉ name := fun hmem =>
        (ne_of_mem_of_isName (isName_iff.mpr hname) _ hmem).2.2.2 rfl
      have hne : name.isEmpty = false := by cases hname; rfl
      rw [Text.cut?_append hcolon]
      cases sub with
      | nil => exact absurd rfl hsub
      | cons c sub =>
        dsimp only
        rw [if_neg (by simp [hne])]
        exact (hchecked name _).mpr ⟨rfl, hname, hfresh _ rfl⟩
    | @anonymous sub hsub =>
      cases sub with
      | nil => exact absurd rfl hsub
      | cons c sub => rfl

/-! ## Patterns -/

/-- The tokens that are read are those that the text is written with, unless one of their names has
been used before. -/
theorem tokens_eq_ok_iff {names : List (List Char)} {s : List Char} {ts : List Token} :
    tokens names s = .ok ts ↔ Spells s ts ∧ Fresh names ts := by
  constructor
  · intro h
    fun_induction tokens names s generalizing ts with
    | case1 =>
      cases h
      exact ⟨.nil, List.nodup_nil, fun _ hmem => absurd hmem List.not_mem_nil⟩
    | case2 names rest ih =>
      obtain ⟨ts, hts, ⟨⟩⟩ := bind_eq_ok_iff.mp h
      obtain ⟨hspells, hfresh⟩ := ih hts
      exact ⟨.rest hspells, hfresh.cons_unnamed rfl⟩
    | case3 names rest hstar ih =>
      obtain ⟨ts, hts, ⟨⟩⟩ := bind_eq_ok_iff.mp h
      obtain ⟨hspells, hfresh⟩ := ih hts
      have hhead : rest.head? ≠ some '*' := by
        intro hhead
        obtain ⟨t, rfl⟩ := List.head?_eq_some_iff.mp hhead
        exact hstar t rfl
      exact ⟨.segment hhead hspells, hfresh.cons_unnamed rfl⟩
    | case4 | case5 => cases h
    | case6 names s body after hbody ih =>
      obtain ⟨t, ht, h⟩ := bind_eq_ok_iff.mp h
      obtain ⟨ts, hts, ⟨⟩⟩ := bind_eq_ok_iff.mp h
      obtain ⟨hspells, hfresh⟩ := ih t hts
      obtain ⟨hcapture, hname⟩ := captureToken_eq_ok_iff.mp ht
      obtain ⟨hbalanced, rfl⟩ := captureBody_eq_some_iff.mp hbody
      exact ⟨.capture hbalanced hcapture hspells, fresh_cons_iff.mpr ⟨hname, hfresh⟩⟩
    | case7 names c rest _ hstar hclose hopen ih =>
      obtain ⟨ts, hts, ⟨⟩⟩ := bind_eq_ok_iff.mp h
      obtain ⟨hspells, hfresh⟩ := ih hts
      exact ⟨.char ⟨hstar, hopen, hclose⟩ hspells, hfresh.cons_unnamed rfl⟩
  · rintro ⟨hspells, hfresh⟩
    induction hspells generalizing names with
    | nil => rw [tokens]
    | @char c s ts hc _ ih =>
      have hrest : tokens names s = .ok ts := ih (fresh_cons_iff.mp hfresh).2
      rw [tokens, hrest]
      · rfl
      · exact fun _ hstar _ => hc.1 hstar
      · exact hc.1
      · exact hc.2.2
      · exact hc.2.1
    | @segment s ts hs _ ih =>
      have hrest : tokens names s = .ok ts := ih (fresh_cons_iff.mp hfresh).2
      rw [tokens, hrest]
      · rfl
      · exact fun t ht => hs (by rw [ht]; rfl)
    | @rest s ts _ ih =>
      have hrest : tokens names s = .ok ts := ih (fresh_cons_iff.mp hfresh).2
      rw [tokens, hrest]
      rfl
    | @capture body s t ts hbody ht _ ih =>
      obtain ⟨hname, hfresh⟩ := fresh_cons_iff.mp hfresh
      have hread : captureBody 0 (body ++ '\x7d' :: s) = some (body, s) :=
        captureBody_eq_some_iff.mpr ⟨hbody, rfl⟩
      rw [tokens]
      split
      · next hnone =>
        rw [hread] at hnone
        cases hnone
      · next _ _ hsome =>
        rw [hread] at hsome
        cases hsome
        rw [captureToken_eq_ok_iff.mpr ⟨ht, hname⟩]
        change (tokens (t.name?.toList ++ names) s).bind _ = _
        rw [ih hfresh]
        rfl

theorem exists_tokens_eq_ok_iff {s : List Char} :
    (∃ ts, tokens [] s = .ok ts) ↔ WellFormed s := by
  simp only [tokens_eq_ok_iff, Fresh, List.not_mem_nil, not_false_eq_true, implies_true, and_true,
    WellFormed]

/-! ## Roots and slashes at the end -/

/-- The token is a character, and one that the test is about. -/
def Token.isChar (p : Char → Bool) : Token → Bool
  | .char c => p c
  | _ => false

@[simp]
theorem Token.isChar_char (p : Char → Bool) (c : Char) : Token.isChar p (.char c) = p c := rfl

namespace Spells

variable {s : List Char} {ts : List Token} {d : Char}

theorem slash_cons_iff : Spells ('/' :: s) ts ↔ ∃ ts', ts = .char '/' :: ts' ∧ Spells s ts' := by
  constructor
  · intro h
    cases h with
    | char _ h => exact ⟨_, rfl, h⟩
  · rintro ⟨ts', rfl, h⟩
    exact .char (by decide) h

/-- What ends with a character and begins with a text that does not still ends with it behind this
text. -/
theorem exists_of_append_char {p r : List Char} (hp : p.getLast? ≠ some d)
    (h : s ++ [d] = p ++ r) : ∃ r', r = r' ++ [d] ∧ s = p ++ r' := by
  obtain rfl | ⟨r', e, rfl⟩ := List.eq_nil_or_concat' r
  · rw [List.append_nil] at h
    rw [← h, List.getLast?_concat] at hp
    exact absurd rfl hp
  · rw [← List.append_assoc] at h
    obtain ⟨rfl, hlast⟩ := List.append_inj' h rfl
    exact ⟨r', by rw [hlast], rfl⟩

theorem append_char_iff (hd : d ≠ '*' ∧ d ≠ '\x7b' ∧ d ≠ '\x7d') :
    Spells (s ++ [d]) ts ↔ ∃ ts', ts = ts' ++ [.char d] ∧ Spells s ts' := by
  have hstar : some '*' ≠ some d := fun h => hd.1 (Option.some.inj h).symm
  constructor
  · intro h
    generalize htext : s ++ [d] = text at h
    induction h generalizing s with
    | nil => exact absurd htext (by simp)
    | @char c s' ts hc h ih =>
      cases s with
      | nil =>
        obtain ⟨rfl, rfl⟩ := List.cons.inj htext
        cases h
        exact ⟨[], rfl, .nil⟩
      | cons e s =>
        obtain ⟨rfl, hrest⟩ := List.cons.inj htext
        obtain ⟨ts', rfl, h'⟩ := ih hrest
        exact ⟨.char e :: ts', rfl, .char hc h'⟩
    | segment hs _ ih =>
      obtain ⟨r, rfl, rfl⟩ := exists_of_append_char (p := ['*']) hstar htext
      obtain ⟨ts', rfl, h'⟩ := ih rfl
      refine ⟨.segment :: ts', rfl, .segment ?_ h'⟩
      cases r with
      | nil => exact nofun
      | cons c r => exact hs
    | rest _ ih =>
      obtain ⟨r, rfl, rfl⟩ := exists_of_append_char (p := ['*', '*']) hstar htext
      obtain ⟨ts', rfl, h'⟩ := ih rfl
      exact ⟨.rest :: ts', rfl, .rest h'⟩
    | @capture body s' t ts hbody ht _ ih =>
      have htext' : s ++ [d] = ('\x7b' :: body ++ ['\x7d']) ++ s' := by
        rw [htext, List.cons_append, List.cons_append, List.append_assoc, List.singleton_append]
      have hclose : ('\x7b' :: body ++ ['\x7d']).getLast? ≠ some d := by
        rw [List.getLast?_concat]
        exact fun h => hd.2.2 (Option.some.inj h).symm
      obtain ⟨r, rfl, rfl⟩ := exists_of_append_char hclose htext'
      obtain ⟨ts', rfl, h'⟩ := ih rfl
      refine ⟨t :: ts', rfl, ?_⟩
      rw [List.cons_append, List.cons_append, List.append_assoc, List.singleton_append]
      exact .capture hbody ht h'
  · rintro ⟨ts', rfl, h⟩
    induction h with
    | nil => exact .char hd .nil
    | char hc _ ih => exact .char hc ih
    | @segment s ts hs _ ih =>
      refine .segment ?_ ih
      cases s with
      | nil => exact hstar.symm
      | cons c s => exact hs
    | rest _ ih => exact .rest ih
    | capture hbody ht _ ih =>
      rw [List.cons_append, List.append_assoc, List.cons_append]
      exact .capture hbody ht ih

theorem getLast?_eq (h : Spells s ts) (hlast : ts.getLast? = some (.char d)) :
    s.getLast? = some d := by
  have hsplit : ∀ {t : Token} {ts : List Token}, (t :: ts).getLast? = some (.char d) →
      ts = [] ∧ t = .char d ∨ ts.getLast? = some (.char d) := by
    intro t ts hlast
    cases ts with
    | nil => exact .inl ⟨rfl, Option.some.inj hlast⟩
    | cons t' ts => exact .inr hlast
  have hbehind : ∀ {p s : List Char}, s.getLast? = some d → (p ++ s).getLast? = some d :=
    fun h => by rw [List.getLast?_append, h, Option.some_or]
  induction h with
  | nil => cases hlast
  | @char c s ts _ h ih =>
    obtain ⟨rfl, ⟨⟩⟩ | hlast := hsplit hlast
    · cases h
      rfl
    · exact hbehind (p := [c]) (ih hlast)
  | segment _ _ ih =>
    obtain ⟨-, ⟨⟩⟩ | hlast := hsplit hlast
    exact hbehind (p := ['*']) (ih hlast)
  | rest _ ih =>
    obtain ⟨-, ⟨⟩⟩ | hlast := hsplit hlast
    exact hbehind (p := ['*', '*']) (ih hlast)
  | @capture body s t ts _ ht _ ih =>
    obtain ⟨-, rfl⟩ | hlast := hsplit hlast
    · cases ht
    · have hbrace : ('\x7d' :: s).getLast? = some d := hbehind (p := ['\x7d']) (ih hlast)
      exact hbehind (p := '\x7b' :: body) hbrace

end Spells

/-- The tokens with a slash at their start. -/
def rootedTokens (ts : List Token) : List Token :=
  if ts.head? = some (.char '/') then ts else .char '/' :: ts

/-- The tokens with a slash at their start and none at their end. What is left of an exact pattern
is at least the root. -/
def stem (mode : Mode) (ts : List Token) : List Token :=
  let body := (rootedTokens ts).rdropWhile (· = .char '/')
  if body = [] ∧ mode = .exact then [.char '/'] else body

theorem dropSlashes_eq (s : List Char) : dropSlashes s = s.rdropWhile (· = '/') := rfl

theorem normalize_eq (mode : Mode) (text : List Char) : normalize mode text =
    if dropSlashes (rooted text) = [] ∧ mode = .exact then ['/'] else dropSlashes (rooted text) :=
  if_congr (and_congr_left' List.isEmpty_iff) rfl rfl

namespace Spells

variable {s : List Char} {ts : List Token}

theorem rooted (h : Spells s ts) : Spells (Pattern.rooted s) (rootedTokens ts) := by
  have hhead : ts.head? = some (.char '/') ↔ s.head? = some '/' := by
    cases h with
    | capture _ ht => cases ht <;> simp
    | _ => simp
  unfold Pattern.rooted rootedTokens
  simp only [hhead]
  split
  · exact h
  · exact slash_cons_iff.mpr ⟨ts, rfl, h⟩

/-- What is left of a text without the plain characters at its end is written with the tokens
before them. -/
theorem rdropWhile {p : Char → Bool} (hp : ∀ c, p c = true → c ≠ '*' ∧ c ≠ '\x7b' ∧ c ≠ '\x7d')
    (h : Spells s ts) : Spells (s.rdropWhile p) (ts.rdropWhile (Token.isChar p)) := by
  induction s using List.reverseRecOn generalizing ts with
  | nil =>
    cases h
    exact .nil
  | append_singleton s c ih =>
    rw [List.rdropWhile_concat]
    by_cases hc : p c = true
    · obtain ⟨ts', rfl, hrest⟩ := (append_char_iff (hp c hc)).mp h
      rw [List.rdropWhile_concat, Token.isChar_char, if_pos hc, if_pos hc]
      exact ih hrest
    · rw [if_neg hc, List.rdropWhile_eq_self_iff.mpr]
      · exact h
      · intro hne hlast
        cases htoken : ts.getLast hne with
        | char d =>
          have hd := h.getLast?_eq ((List.getLast?_eq_some_getLast hne).trans
            (congrArg some htoken))
          rw [List.getLast?_concat] at hd
          obtain rfl := Option.some.inj hd
          rw [htoken] at hlast
          exact hc hlast
        | _ =>
          rw [htoken] at hlast
          cases hlast

theorem dropSlashes (h : Spells s ts) :
    Spells (Pattern.dropSlashes s) (ts.rdropWhile (· = .char '/')) := by
  have hslash : (fun t : Token => decide (t = .char '/')) = Token.isChar (· = '/') := by
    funext t
    cases t <;> simp [Token.isChar]
  rw [hslash, dropSlashes_eq]
  refine h.rdropWhile fun c hc => ?_
  obtain rfl := of_decide_eq_true hc
  decide

theorem normalize (h : Spells s ts) (mode : Mode) :
    Spells (Pattern.normalize mode s) (stem mode ts) := by
  have hbody := h.rooted.dropSlashes
  have hnil : Pattern.dropSlashes (Pattern.rooted s) = [] ↔
      (rootedTokens ts).rdropWhile (· = .char '/') = [] := by
    generalize Pattern.dropSlashes (Pattern.rooted s) = body at hbody
    generalize (rootedTokens ts).rdropWhile (· = .char '/') = tokens at hbody
    cases hbody <;> simp
  rw [normalize_eq, stem]
  simp only [hnil]
  split
  · exact .char (by decide) .nil
  · exact hbody

end Spells

theorem tokenNames_stem_sublist (mode : Mode) (ts : List Token) :
    List.Sublist (tokenNames (stem mode ts)) (tokenNames ts) := by
  have hrooted : tokenNames (rootedTokens ts) = tokenNames ts := by
    unfold rootedTokens
    split <;> rfl
  unfold stem
  dsimp only
  split
  · exact List.nil_sublist _
  · rw [← hrooted]
    exact (List.rdropWhile_prefix _ _).sublist.filterMap _

namespace WellFormed

variable {s : List Char}

theorem slash_cons_iff : WellFormed ('/' :: s) ↔ WellFormed s := by
  constructor
  · rintro ⟨_, h, hnodup⟩
    obtain ⟨ts, rfl, hrest⟩ := Spells.slash_cons_iff.mp h
    exact ⟨ts, hrest, hnodup⟩
  · rintro ⟨ts, h, hnodup⟩
    exact ⟨_, Spells.slash_cons_iff.mpr ⟨ts, rfl, h⟩, hnodup⟩

theorem append_slash_iff : WellFormed (s ++ ['/']) ↔ WellFormed s := by
  have hnames : ∀ ts, tokenNames (ts ++ [.char '/']) = tokenNames ts := by
    intro ts
    rw [tokenNames, List.filterMap_append]
    exact List.append_nil _
  constructor
  · rintro ⟨_, h, hnodup⟩
    obtain ⟨ts, rfl, hrest⟩ := (Spells.append_char_iff (by decide)).mp h
    exact ⟨ts, hrest, hnames ts ▸ hnodup⟩
  · rintro ⟨ts, h, hnodup⟩
    exact ⟨_, (Spells.append_char_iff (by decide)).mpr ⟨ts, rfl, h⟩, (hnames ts).symm ▸ hnodup⟩

theorem rooted_iff : WellFormed (rooted s) ↔ WellFormed s := by
  unfold rooted
  split
  · rfl
  · exact slash_cons_iff

theorem dropSlashes_iff : WellFormed (dropSlashes s) ↔ WellFormed s := by
  induction s using List.reverseRecOn with
  | nil => rfl
  | append_singleton s c ih =>
    rw [dropSlashes_eq, List.rdropWhile_concat]
    split
    · next hc =>
      obtain rfl := of_decide_eq_true hc
      exact ih.trans append_slash_iff.symm
    · rfl

/-- Neither the slash at the start of a pattern nor those at its end are part of a capture that
is closed. -/
theorem normalize_iff (mode : Mode) : WellFormed (normalize mode s) ↔ WellFormed s := by
  have hbody : WellFormed (dropSlashes (rooted s)) ↔ WellFormed s :=
    dropSlashes_iff.trans rooted_iff
  rw [normalize_eq, ← hbody]
  split
  · next h => rw [h.1, slash_cons_iff]
  · rfl

end WellFormed

/-! ## Compilation -/

/-- A pattern is malformed exactly if it does not follow the grammar. Otherwise it is compiled if
the regular expression that its tokens are translated to is; nothing else counts. -/
theorem compile_iff_wellFormed (mode : Mode) (text : String) :
    ((∃ cause, compile mode text = .error (.malformed text cause)) ↔ ¬WellFormed text.toList) ∧
      ∀ ts, Spells text.toList ts → (tokenNames ts).Nodup →
        compile mode text =
          match Regex.compile (String.ofList (source mode (stem mode ts))) with
          | .ok regex => .ok { text, mode, regex }
          | .error cause => .error (.invalidRegex text cause) := by
  constructor
  · rw [← WellFormed.normalize_iff mode, ← exists_tokens_eq_ok_iff, compile]
    cases tokens [] (normalize mode text.toList) with
    | error cause => simp
    | ok ts =>
      dsimp only
      split <;> simp
  · intro ts hspells hnodup
    have htokens : tokens [] (normalize mode text.toList) = .ok (stem mode ts) :=
      tokens_eq_ok_iff.mpr ⟨hspells.normalize mode,
        hnodup.sublist (tokenNames_stem_sublist mode ts), fun _ _ => List.not_mem_nil⟩
    rw [compile, htokens]
    dsimp only
    generalize Regex.compile (String.ofList (source mode (stem mode ts))) = compiled
    cases compiled <;> rfl

end Signpost.Pattern
