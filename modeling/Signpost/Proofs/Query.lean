import Mathlib.Data.List.Forall2
import Signpost.Proofs.Text
import Signpost.Proofs.Text.Utf8
import Signpost.Query
import Signpost.Url.Percent

/-!
# Reading queries

Reading a query keeps every value. Two queries joined by `&` have, for each key, the values of the
first and then those of the second; and what is written into a query with every byte escaped, in
digits of either case, is read from it again (`Params.ofQuery_keeps`).
-/

namespace Signpost

namespace Query

/-! ## Escaped texts -/

/-- The text names the bytes one by one, each by a percent sign and two hexadecimal digits. -/
inductive Escapes : List Char → Bytes → Prop
  | nil : Escapes [] []
  | cons {x y : Char} {b : UInt8} {text : List Char} {bytes : Bytes}
    (high : Unicode.Table.hexDigit? x = some (b.toNat / 16))
    (low : Unicode.Table.hexDigit? y = some (b.toNat % 16))
    (rest : Escapes text bytes) : Escapes ('%' :: x :: y :: text) (b :: bytes)

theorem isAlphanum_of_hexDigit? {c : Char} {value : Nat}
    (h : Unicode.Table.hexDigit? c = some value) : c.isAlphanum = true := by
  rw [Text.isAlphanum_iff, Text.isAlpha_iff, Text.isUpper_iff, Text.isLower_iff, Text.isDigit_iff]
  rw [Unicode.Table.hexDigit?] at h
  split at h
  · next hdigit => exact .inr hdigit
  split at h
  · next hlower => exact .inl (.inr ⟨hlower.1, Char.le_trans hlower.2 (by decide)⟩)
  split at h
  · next hupper => exact .inl (.inl ⟨hupper.1, Char.le_trans hupper.2 (by decide)⟩)
  · cases h

/-- A mark that separates parts of a query is not written in an escaped text. -/
theorem Escapes.not_mem {text : List Char} {bytes : Bytes} (h : Escapes text bytes) {mark : Char}
    (hpercent : mark ≠ '%') (hmark : mark.isAlphanum = false) : mark ∉ text := by
  induction h with
  | nil => exact List.not_mem_nil
  | cons high low _ ih =>
    have hne {c : Char} (hc : c.isAlphanum = true) : mark ≠ c := by
      rintro rfl
      rw [hmark] at hc
      cases hc
    have hx := hne (isAlphanum_of_hexDigit? high)
    have hy := hne (isAlphanum_of_hexDigit? low)
    simp [hpercent, hx, hy, ih]

theorem encodeChar_of_hexDigit? {c : Char} {value : Nat}
    (h : Unicode.Table.hexDigit? c = some value) :
    ∃ b, Text.Utf8.encodeChar c = [b] ∧ hexByte? b = some value := by
  have hle := Text.toNat_of_isAlphanum (isAlphanum_of_hexDigit? h)
  have hlt : c.toNat < 256 := by omega
  have hbyte : (UInt8.ofNat c.toNat).toNat = c.toNat := UInt8.toNat_ofNat_of_lt' hlt
  refine ⟨.ofNat c.toNat, ?_, ?_⟩
  · rw [Text.Utf8.encodeChar, if_pos (by omega)]
  · rw [hexByte?, hbyte, Char.ofNat_toNat, h]

theorem Escapes.percentDecode_eq {text : List Char} {bytes : Bytes} (h : Escapes text bytes) :
    percentDecode (Text.Utf8.encodeChars text) = bytes := by
  induction h with
  | nil => rfl
  | @cons x y b text bytes high low _ ih =>
    obtain ⟨first, hx, hhigh⟩ := encodeChar_of_hexDigit? high
    obtain ⟨second, hy, hlow⟩ := encodeChar_of_hexDigit? low
    have hbytes : Text.Utf8.encodeChars ('%' :: x :: y :: text) =
        0x25 :: first :: second :: Text.Utf8.encodeChars text := by
      simp only [Text.Utf8.encodeChars, List.flatMap_cons, hx, hy]
      rfl
    have hb : b.toNat / 16 * 16 + b.toNat % 16 = b.toNat := by omega
    rw [hbytes, percentDecode, hhigh, hlow, ih]
    simp only [BEq.rfl, hb, UInt8.ofNat_toNat]

theorem Escapes.decode_eq {text : List Char} {s : String}
    (h : Escapes text (Text.Utf8.encode s)) : decode text = s := by
  have hplus : '+' ∉ text := h.not_mem (by decide) (by decide)
  have hblanks : (text.map fun c => if c = '+' then ' ' else c) = text := by
    refine (List.map_congr_left fun c hc => ?_).trans (List.map_id text)
    exact if_neg (ne_of_mem_of_not_mem hc hplus)
  rw [decode, hblanks, h.percentDecode_eq, Text.Utf8.encode, Text.Utf8.decodeLossy_encodeChars,
    String.ofList_toList]

/-! ## Written queries -/

/-- The piece of a query writes the key and the value, both escaped, with `=` between them. -/
def WritesPair (piece : List Char) (entry : String × String) : Prop :=
  ∃ key value, Escapes key (Text.Utf8.encode entry.1) ∧ Escapes value (Text.Utf8.encode entry.2) ∧
    piece = key ++ '=' :: value

/-- The query writes the keys and values, one piece for each pair, with `&` between them. -/
def Writes (query : String) (entries : List (String × String)) : Prop :=
  ∃ pieces, List.Forall₂ WritesPair pieces entries ∧
    query.toList = ['&'].intercalate pieces

theorem WritesPair.pair_eq {piece : List Char} {entry : String × String}
    (h : WritesPair piece entry) : pair piece = entry := by
  obtain ⟨key, value, hkey, hvalue, rfl⟩ := h
  have hsign : '=' ∉ key := hkey.not_mem (by decide) (by decide)
  rw [pair, Text.cut?_append hsign]
  exact Prod.ext hkey.decode_eq hvalue.decode_eq

theorem WritesPair.ne_nil {piece : List Char} {entry : String × String}
    (h : WritesPair piece entry) : piece ≠ [] := by
  obtain ⟨key, value, -, -, rfl⟩ := h
  exact List.append_ne_nil_of_right_ne_nil key (List.cons_ne_nil _ _)

theorem WritesPair.not_mem {piece : List Char} {entry : String × String}
    (h : WritesPair piece entry) : '&' ∉ piece := by
  obtain ⟨key, value, hkey, hvalue, rfl⟩ := h
  have hinkey : '&' ∉ key := hkey.not_mem (by decide) (by decide)
  have hinvalue : '&' ∉ value := hvalue.not_mem (by decide) (by decide)
  simp [hinkey, hinvalue]

theorem pairs_append (a b : List Char) : pairs (a ++ '&' :: b) = pairs a ++ pairs b := by
  rw [pairs, Text.split_append, List.filter_append, List.map_append, pairs, pairs]

/-- What was written is read again. -/
theorem Writes.pairs_eq {query : String} {entries : List (String × String)}
    (h : Writes query entries) : pairs query.toList = entries := by
  obtain ⟨pieces, hpieces, hquery⟩ := h
  have hfacts : List.Forall₂ (fun piece entry => (piece ≠ [] ∧ '&' ∉ piece) ∧ pair piece = entry)
      pieces entries := hpieces.imp fun _ _ h => ⟨⟨h.ne_nil, h.not_mem⟩, h.pair_eq⟩
  obtain ⟨hnot, hpairs⟩ := (List.forall₂_and_left pieces entries).mp hfacts
  have hread : pieces.map pair = entries := by
    rwa [← List.forall₂_eq_eq_eq, List.forall₂_map_left_iff]
  have hkept : pieces.filter (!·.isEmpty) = pieces :=
    List.filter_eq_self.mpr fun piece hpiece => by simpa using (hnot piece hpiece).1
  rw [hquery]
  cases pieces with
  | nil => exact hread
  | cons piece rest =>
    rw [pairs, Text.split_intercalate (List.cons_ne_nil piece rest) fun p hp => (hnot p hp).2,
      hkept, hread]

/-- The query that writes the keys and values in upper-case digits. -/
def write (entries : List (String × String)) : String :=
  let escape (s : String) := (Text.Utf8.encode s).flatMap Url.Percent.escape
  String.ofList (['&'].intercalate (entries.map fun e => escape e.1 ++ '=' :: escape e.2))

theorem hexDigit?_digit :
    ∀ value < 16, Unicode.Table.hexDigit? (Url.Percent.digit value) = some value := by
  decide

theorem escapes_escape (bytes : Bytes) : Escapes (bytes.flatMap Url.Percent.escape) bytes := by
  induction bytes with
  | nil => exact .nil
  | cons b bytes ih =>
    have hb : b.toNat < 256 := b.toNat_lt
    exact .cons (hexDigit?_digit _ (by omega)) (hexDigit?_digit _ (by omega)) ih

theorem writes_write (entries : List (String × String)) : Writes (write entries) entries := by
  refine ⟨_, ?_, String.toList_ofList⟩
  rw [List.forall₂_map_left_iff]
  exact List.forall₂_same.mpr fun e _ => ⟨_, _, escapes_escape _, escapes_escape _, rfl⟩

end Query

namespace Params

/-! ## Collected values -/

/-- All values of the key in order. -/
def values (p : Params) (key : String) : List String := (p.get? key).getD []

/-- The values that the pairs give to the key, in order. -/
def valuesIn (entries : List (String × String)) (key : String) : List String :=
  (entries.filter (·.1 == key)).map Prod.snd

theorem values_add (p : Params) (k value key : String) :
    (p.add k value).values key = p.values key ++ if k = key then [value] else [] := by
  rw [values, add, Dict.get?_insert, values]
  by_cases h : key = k
  · subst h
    simp
  · simp [h, Ne.symm h]

theorem contains_add (p : Params) (k value key : String) :
    (p.add k value).contains key = true ↔ k = key ∨ p.contains key = true := by
  rw [Dict.contains, add, Dict.get?_insert, Dict.contains]
  by_cases h : key = k
  · simp [h]
  · simp [h, Ne.symm h]

theorem values_foldl_add (entries : List (String × String)) (key : String) : ∀ p : Params,
    (entries.foldl (fun p e => p.add e.1 e.2) p).values key =
      p.values key ++ valuesIn entries key := by
  induction entries with
  | nil => exact fun p => (List.append_nil _).symm
  | cons e entries ih =>
    intro p
    rw [List.foldl_cons, ih, values_add, List.append_assoc]
    by_cases h : e.1 = key <;> simp [valuesIn, h]

theorem contains_foldl_add (entries : List (String × String)) (key : String) : ∀ p : Params,
    (entries.foldl (fun p e => p.add e.1 e.2) p).contains key = true ↔
      p.contains key = true ∨ key ∈ entries.map Prod.fst := by
  induction entries with
  | nil => simp
  | cons e entries ih =>
    intro p
    rw [List.foldl_cons, ih, contains_add, List.map_cons, List.mem_cons, eq_comm (a := key)]
    tauto

theorem values_ofQuery (query key : String) :
    (ofQuery query).values key = valuesIn (Query.pairs query.toList) key :=
  values_foldl_add _ key Dict.empty

theorem contains_ofQuery (query key : String) :
    (ofQuery query).contains key = true ↔ key ∈ (Query.pairs query.toList).map Prod.fst := by
  rw [ofQuery, contains_foldl_add]
  simp [Dict.contains]

/-- Reading a query loses nothing: neither where two queries are joined, nor of what was written
into a query with every byte escaped. -/
theorem ofQuery_keeps :
    (∀ a b key : String,
      (ofQuery (a ++ "&" ++ b)).values key = (ofQuery a).values key ++ (ofQuery b).values key ∧
      ((ofQuery (a ++ "&" ++ b)).contains key = true ↔
        (ofQuery a).contains key = true ∨ (ofQuery b).contains key = true)) ∧
    (∀ entries, Query.Writes (Query.write entries) entries) ∧
    ∀ (entries : List (String × String)) (query : String), Query.Writes query entries →
      ∀ key, (ofQuery query).values key = valuesIn entries key ∧
        ((ofQuery query).contains key = true ↔ key ∈ entries.map Prod.fst) := by
  refine ⟨fun a b key => ?_, Query.writes_write, fun entries query h key => ?_⟩
  · have hpairs : Query.pairs (a ++ "&" ++ b).toList =
        Query.pairs a.toList ++ Query.pairs b.toList := by
      rw [String.toList_append, String.toList_append, List.append_assoc]
      exact Query.pairs_append a.toList b.toList
    simp only [values_ofQuery, contains_ofQuery, hpairs, valuesIn, List.filter_append,
      List.map_append, List.mem_append, and_self]
  · rw [values_ofQuery, contains_ofQuery, h.pairs_eq]
    exact ⟨rfl, Iff.rfl⟩

/-- Marks of the query inside of keys and values, digits in both cases, and a key that comes twice. -/
theorem ofQuery_keeps_marks :
    let query := "%26=%3d&%C3%a9=%2B&%26="
    let entries := [("&", "="), ("é", "+"), ("&", "")]
    Query.Writes query entries ∧ (ofQuery query).values "&" = ["=", ""] ∧
      (ofQuery query).values "é" = ["+"] ∧ (ofQuery query).contains "=" = false := by
  intro query entries
  have hand : Query.Escapes ['%', '2', '6'] (Text.Utf8.encode "&") :=
    .cons (by decide) (by decide) .nil
  have hsign : Query.Escapes ['%', '3', 'd'] (Text.Utf8.encode "=") :=
    .cons (by decide) (by decide) .nil
  have haccent : Query.Escapes ['%', 'C', '3', '%', 'a', '9'] (Text.Utf8.encode "é") :=
    .cons (by decide) (by decide) (.cons (by decide) (by decide) .nil)
  have hplus : Query.Escapes ['%', '2', 'B'] (Text.Utf8.encode "+") :=
    .cons (by decide) (by decide) .nil
  have hwrites : Query.Writes query entries :=
    ⟨_, .cons ⟨_, _, hand, hsign, rfl⟩ (.cons ⟨_, _, haccent, hplus, rfl⟩
      (.cons ⟨_, _, hand, .nil, rfl⟩ .nil)), by decide⟩
  obtain ⟨-, -, hkeeps⟩ := ofQuery_keeps
  have hnone : ¬(ofQuery query).contains "=" = true :=
    mt (hkeeps entries query hwrites "=").2.mp (by decide)
  exact ⟨hwrites, (hkeeps entries query hwrites "&").1, (hkeeps entries query hwrites "é").1,
    Bool.eq_false_iff.mpr hnone⟩

end Params

end Signpost
