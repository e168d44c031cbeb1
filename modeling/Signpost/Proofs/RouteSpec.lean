import Mathlib
import Signpost.Http.Method
import Signpost.Proofs.Path.Canonical
import Signpost.RouteSpec

/-!
# Route texts

A list of methods, a blank and a pattern are read as these methods, in upper case, and as that
pattern, cleaned (`RouteSpec.parse_list`). Without a blank, the text is a pattern for every method
(`RouteSpec.parse_of_not_mem`).
-/

namespace Signpost

open Http (Method)

namespace Http

theorem toNat_of_isTokenChar {c : Char} (h : isTokenChar c = true) :
    33 ≤ c.toNat ∧ c.toNat ≤ 126 := by
  have hsigns : "!#$%&'*+-.^_`|~".toList.all (fun d => 33 ≤ d.toNat ∧ d.toNat ≤ 126) = true := by
    decide
  rw [isTokenChar, Bool.or_eq_true, List.contains_iff_mem] at h
  obtain h | h := h
  · have hrange := Text.toNat_of_isAlphanum h
    omega
  · exact of_decide_eq_true (List.all_eq_true.mp hsigns c h)

theorem isBlank_of_isTokenChar {c : Char} (h : isTokenChar c = true) : Text.isBlank c = false := by
  obtain ⟨hlo, hhi⟩ := toNat_of_isTokenChar h
  simp [Text.isBlank]
  omega

theorem Method.isTokenChar_of_mem (m : Method) : ∀ c ∈ m.name.toList, isTokenChar c = true := by
  have htoken := m.isToken
  rw [Http.isToken, Bool.and_eq_true, List.all_eq_true] at htoken
  exact htoken.2

theorem Method.name_ne_nil (m : Method) : m.name.toList ≠ [] := by
  have htoken := m.isToken
  rw [Http.isToken, Bool.and_eq_true] at htoken
  intro hnil
  rw [hnil] at htoken
  simp at htoken

end Http

/-! ## Methods -/

theorem Http.isTokenChar_toUpper {c : Char} (h : isTokenChar c = true) :
    isTokenChar c.toUpper = true := by
  by_cases hlower : c.isLower = true
  · have hupper : c.toUpper.isUpper = true := by
      rw [Char.isUpper_toUpper_eq_isAlpha, Char.isAlpha, hlower, Bool.or_true]
    rw [isTokenChar, Bool.or_eq_true, Text.isAlphanum_iff, Text.isAlpha_iff]
    exact .inl (.inl (.inl hupper))
  · rwa [Char.toUpper_eq_of_not_isLower hlower]

/-- In upper case, a method is still made of characters of tokens. -/
theorem Http.Method.isTokenChar_of_mem_upperAscii (m : Method) :
    ∀ c ∈ upperAscii m.name.toList, isTokenChar c = true := by
  intro c hc
  obtain ⟨d, hd, rfl⟩ := List.mem_map.mp hc
  exact isTokenChar_toUpper (m.isTokenChar_of_mem d hd)

@[simp]
theorem upperAscii_upperAscii (s : List Char) : upperAscii (upperAscii s) = upperAscii s := by
  simp [upperAscii]

namespace RouteSpec

/-- What stands between the commas of a list of methods: something, but no blank. -/
def IsEntry (method : String) : Prop :=
  method.toList ≠ [] ∧ ∀ c ∈ method.toList, Text.isBlank c = false ∧ c ≠ ','

instance (method : String) : Decidable (IsEntry method) :=
  inferInstanceAs (Decidable (method.toList ≠ [] ∧
    ∀ c ∈ method.toList, Text.isBlank c = false ∧ c ≠ ','))

theorem isEntry_name (m : Method) : IsEntry m.name := by
  refine ⟨m.name_ne_nil, fun c hc => ?_⟩
  have hchar := m.isTokenChar_of_mem c hc
  refine ⟨Http.isBlank_of_isTokenChar hchar, ?_⟩
  rintro rfl
  exact absurd hchar (by decide)

theorem split_intercalate {methods : List String} (hne : methods ≠ [])
    (h : ∀ method ∈ methods, IsEntry method) :
    Text.split ',' (",".intercalate methods).toList = methods.map String.toList := by
  rw [String.toList_intercalate]
  refine Text.split_intercalate (by simpa using hne) fun piece hpiece hcomma => ?_
  obtain ⟨method, hmem, rfl⟩ := List.mem_map.mp hpiece
  exact ((h method hmem).2 ',' hcomma).2 rfl

theorem isBlank_of_mem_intercalate {methods : List String} (hne : methods ≠ [])
    (h : ∀ method ∈ methods, IsEntry method) {c : Char}
    (hc : c ∈ (",".intercalate methods).toList) : Text.isBlank c = false := by
  rcases Text.eq_or_mem_piece ',' hc with rfl | ⟨piece, hpiece, hc⟩
  · decide
  · rw [split_intercalate hne h] at hpiece
    obtain ⟨method, hmem, rfl⟩ := List.mem_map.mp hpiece
    exact ((h method hmem).2 c hc).1

theorem methodList_intercalate {methods : List String} (hne : methods ≠ [])
    (h : ∀ method ∈ methods, IsEntry method) : methodList (",".intercalate methods).toList =
      methods.map fun method => String.ofList (upperAscii method.toList) := by
  have htrim : ∀ method ∈ methods, Text.trim method.toList = method.toList :=
    fun method hmem => Text.trim_of_forall fun c hc => ((h method hmem).2 c hc).1
  have hkept : (methods.map String.toList).filter (!·.isEmpty) = methods.map String.toList := by
    refine List.filter_eq_self.mpr fun piece hpiece => ?_
    obtain ⟨method, hmem, rfl⟩ := List.mem_map.mp hpiece
    simpa using (h method hmem).1
  rw [methodList, split_intercalate hne h, List.map_map,
    List.map_congr_left (f := Text.trim ∘ String.toList) htrim, hkept, List.map_map]
  rfl

/-- Without a blank inside, the text has no list of methods and is for all of them. -/
theorem parse_of_not_mem {text : String} (h : ' ' ∉ Text.trim text.toList) : parse text =
    { methods := [anyMethod], pattern := Path.clean (String.ofList (Text.trim text.toList)) } := by
  simp only [parse, Text.cut?_of_not_mem h]

/-- Without blanks, the text is a pattern for every method. -/
theorem parse_of_forall {text : String} (h : ∀ c ∈ text.toList, Text.isBlank c = false) :
    parse text = { methods := [anyMethod], pattern := Path.clean text } := by
  have htrim := Text.trim_of_forall h
  rw [parse_of_not_mem fun hmem => absurd (h ' ' (htrim ▸ hmem)) (by decide), htrim,
    String.ofList_toList]

/-- A list of methods, a blank and a pattern in which not all is blank. -/
theorem parse_list_trim {methods : List String} (hne : methods ≠ [])
    (h : ∀ method ∈ methods, IsEntry method) {pattern : String}
    (hpattern : ∃ c ∈ pattern.toList, Text.isBlank c = false) :
    parse (",".intercalate methods ++ " " ++ pattern) =
      { methods := methods.map fun method => String.ofList (upperAscii method.toList)
        pattern := Path.clean (String.ofList (Text.trim (Text.trimEnd pattern.toList))) } := by
  have hlist : ∀ c ∈ (",".intercalate methods).toList, Text.isBlank c = false :=
    fun c => isBlank_of_mem_intercalate hne h
  have hentries := methodList_intercalate hne h
  have hlistne : (",".intercalate methods).toList ≠ [] := by
    intro hnil
    rw [hnil] at hentries
    exact hne (List.map_eq_nil_iff.mp hentries.symm)
  generalize (",".intercalate methods) = list at hlist hlistne hentries
  have htext : (list ++ " " ++ pattern).toList = (list.toList ++ [' ']) ++ pattern.toList := by
    rw [String.toList_append, String.toList_append]
    rfl
  have htrim : Text.trim (list ++ " " ++ pattern).toList =
      list.toList ++ ' ' :: Text.trimEnd pattern.toList := by
    rw [htext, Text.trim_eq_trimEnd, Text.trimEnd_append _ hpattern, List.append_assoc]
    · rfl
    · intro c hc
      obtain ⟨d, rest, hd⟩ := List.exists_cons_of_ne_nil hlistne
      rw [hd] at hc
      obtain rfl := Option.some.inj hc
      exact hlist d (hd ▸ List.mem_cons_self)
  have hcut : Text.cut? ' ' (list.toList ++ ' ' :: Text.trimEnd pattern.toList) =
      some (list.toList, Text.trimEnd pattern.toList) :=
    Text.cut?_append (fun hmem => absurd (hlist ' ' hmem) (by decide)) _
  simp only [parse, htrim, hcut, hentries]

/-- Where the pattern does not begin with a blank, blanks at its end do not count. -/
theorem parse_list {methods : List String} (hne : methods ≠ [])
    (h : ∀ method ∈ methods, IsEntry method) {pattern : String} {first : Char}
    (hfirst : pattern.toList.head? = some first) (hblank : Text.isBlank first = false) :
    parse (",".intercalate methods ++ " " ++ pattern) =
      { methods := methods.map fun method => String.ofList (upperAscii method.toList)
        pattern := Path.clean (String.ofList (Text.trimEnd pattern.toList)) } := by
  have hhead : ∀ c, pattern.toList.head? = some c → Text.isBlank c = false := by
    intro c hc
    rw [hfirst] at hc
    exact Option.some.inj hc ▸ hblank
  rw [parse_list_trim hne h ⟨first, List.mem_of_head? hfirst, hblank⟩, Text.trim_trimEnd hhead]

/-- A method, a blank and a pattern without blanks. -/
theorem parse_method_pattern (m : Method) {pattern : String} (hne : pattern.toList ≠ [])
    (hblank : ∀ c ∈ pattern.toList, Text.isBlank c = false) :
    parse (m.name ++ " " ++ pattern) =
      { methods := [String.ofList (upperAscii m.name.toList)], pattern := Path.clean pattern } := by
  obtain ⟨first, rest, hpattern⟩ := List.exists_cons_of_ne_nil hne
  have hfirst : pattern.toList.head? = some first := by rw [hpattern]; rfl
  have hparse := parse_list (List.cons_ne_nil m.name []) (by simpa using isEntry_name m) hfirst
    (hblank first (List.mem_of_head? hfirst))
  have htrim : Text.trimEnd pattern.toList = pattern.toList := by
    rw [← Text.trim_eq_trimEnd fun c hc => hblank c (List.mem_of_head? hc),
      Text.trim_of_forall hblank]
  rw [htrim, String.ofList_toList] at hparse
  exact hparse

/-- Methods are read in upper case. -/
theorem upperAscii_of_mem_methods {route method : String} (h : method ∈ (parse route).methods) :
    String.ofList (upperAscii method.toList) = method := by
  unfold parse at h
  dsimp only at h
  split at h
  · obtain rfl := List.mem_singleton.mp h
    decide
  · obtain ⟨entry, -, rfl⟩ := List.mem_map.mp h
    rw [String.toList_ofList, upperAscii_upperAscii]

end RouteSpec

end Signpost
