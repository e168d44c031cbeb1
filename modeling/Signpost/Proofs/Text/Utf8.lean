import Signpost.Text.Utf8

/-!
# Texts and their bytes

The bytes of a text tell the text (`Text.Utf8.encode_inj`), and reading them gives it back without a
replacement character (`Text.Utf8.decodeLossy_encodeChars`).
-/

namespace Signpost.Text.Utf8

theorem encodeChar_eq (c : Char) : encodeChar c = String.utf8EncodeChar c := by
  have hval : c.val.toNat = c.toNat := rfl
  have hlt : c.toNat < 0x110000 := by
    rcases c.valid with h | h
    · exact Nat.lt_trans h (by decide)
    · exact h.2
  rw [encodeChar, String.utf8EncodeChar, hval]
  simp only [← Nat.lt_succ_iff]
  split
  · rfl
  split
  · rw [show 0xC0 + c.toNat / 64 = c.toNat / 64 % 32 + 192 by omega, Nat.add_comm 0x80]
  split
  · rw [show 0xE0 + c.toNat / 4096 = c.toNat / 4096 % 16 + 224 by omega, Nat.add_comm 0x80,
      Nat.add_comm 0x80]
  · rw [show 0xF0 + c.toNat / 262144 = c.toNat / 262144 % 8 + 240 by omega, Nat.add_comm 0x80,
      Nat.add_comm 0x80, Nat.add_comm 0x80]

theorem encode_inj {s t : String} : encode s = encode t ↔ s = t := by
  refine ⟨fun h => ?_, fun h => h ▸ rfl⟩
  have hbytes : ∀ s : String, s.toByteArray = (encode s).toByteArray := fun s => by
    rw [← String.utf8Encode_toList, List.utf8Encode, encode, encodeChars,
      show encodeChar = String.utf8EncodeChar from funext encodeChar_eq]
  rw [← String.toByteArray_inj, hbytes, hbytes, h]

/-! ## Reading one character -/

theorem leading?_two {high : Nat} (hlo : 2 ≤ high) (hhi : high < 32) :
    leading? (0xC0 + high) = some (1, 0x80, 0xBF, high) := by
  rw [leading?, if_neg (by omega), if_neg (by omega), if_pos (by omega), Nat.add_sub_cancel_left]

theorem leading?_three : ∀ high < 16, leading? (0xE0 + high) =
    some (2, if high = 0 then 0xA0 else 0x80, if high = 0xD then 0x9F else 0xBF, high) := by
  decide

theorem leading?_four : ∀ high < 5, leading? (0xF0 + high) =
    some (3, if high = 0 then 0x90 else 0x80, if high = 4 then 0x8F else 0xBF, high) := by
  decide

theorem continuation_cons {lo hi b : Nat} (hlo : lo ≤ b) (hhi : b ≤ hi) (hb : b < 256)
    (count n : Nat) (rest : Bytes) :
    continuation (count + 1) lo hi n (.ofNat b :: rest) =
      ((continuation count 0x80 0xBF (n * 64 + b % 64) rest).1,
        (continuation count 0x80 0xBF (n * 64 + b % 64) rest).2 + 1) := by
  have hbyte : (UInt8.ofNat b).toNat = b := UInt8.toNat_ofNat_of_lt' hb
  rw [continuation, hbyte, if_pos ⟨hlo, hhi⟩]

/-- A byte that may stand anywhere in a character but at its start adds six bits to the number. -/
theorem continuation_tail (bits count n : Nat) (rest : Bytes) (h : bits < 64) :
    continuation (count + 1) 0x80 0xBF n (.ofNat (0x80 + bits) :: rest) =
      ((continuation count 0x80 0xBF (n * 64 + bits) rest).1,
        (continuation count 0x80 0xBF (n * 64 + bits) rest).2 + 1) := by
  rw [continuation_cons (by omega) (by omega) (by omega), show (0x80 + bits) % 64 = bits by omega]

theorem decodeChar_of_leading? {b : Nat} (hb : b < 256) {count lo hi n : Nat}
    (h : leading? b = some (count, lo, hi, n)) (rest : Bytes) :
    decodeChar (.ofNat b) rest =
      ((continuation count lo hi n rest).1.map Char.ofNat, (continuation count lo hi n rest).2) := by
  have hbyte : (UInt8.ofNat b).toNat = b := UInt8.toNat_ofNat_of_lt' hb
  rw [decodeChar, hbyte, h]

variable {c : Char}

theorem decodeChar_one (h : c.toNat < 0x80) (rest : Bytes) :
    decodeChar (.ofNat c.toNat) rest = (some c, 0) := by
  rw [decodeChar_of_leading? (by omega) (by rw [leading?, if_pos h]), continuation,
    Option.map_some, Char.ofNat_toNat]

theorem decodeChar_two (hlo : 0x80 ≤ c.toNat) (hhi : c.toNat < 0x800) (rest : Bytes) :
    decodeChar (.ofNat (0xC0 + c.toNat / 64)) (.ofNat (0x80 + c.toNat % 64) :: rest) =
      (some c, 1) := by
  have hnumber : c.toNat / 64 * 64 + c.toNat % 64 = c.toNat := by omega
  rw [decodeChar_of_leading? (by omega) (leading?_two (by omega) (by omega)),
    continuation_tail _ _ _ _ (by omega), continuation, hnumber, Option.map_some, Char.ofNat_toNat]

/-- The second byte is bounded more tightly behind `E0`, where two bytes would do, and behind `ED`,
where surrogates would follow. -/
theorem decodeChar_three (hlo : 0x800 ≤ c.toNat) (hhi : c.toNat < 0x10000) (rest : Bytes) :
    decodeChar (.ofNat (0xE0 + c.toNat / 4096))
        (.ofNat (0x80 + c.toNat / 64 % 64) :: .ofNat (0x80 + c.toNat % 64) :: rest) =
      (some c, 2) := by
  have hvalid : c.toNat < 0xD800 ∨ 0xDFFF < c.toNat ∧ c.toNat < 0x110000 := c.valid
  have hleast : (if c.toNat / 4096 = 0 then 0xA0 else 0x80) ≤ 0x80 + c.toNat / 64 % 64 := by
    split <;> omega
  have hgreatest : 0x80 + c.toNat / 64 % 64 ≤ if c.toNat / 4096 = 0xD then 0x9F else 0xBF := by
    split <;> omega
  have hnumber :
      (c.toNat / 4096 * 64 + (0x80 + c.toNat / 64 % 64) % 64) * 64 + c.toNat % 64 = c.toNat := by
    omega
  rw [decodeChar_of_leading? (by omega) (leading?_three _ (by omega)),
    continuation_cons hleast hgreatest (by omega), continuation_tail _ _ _ _ (by omega),
    continuation, hnumber, Option.map_some, Char.ofNat_toNat]

/-- The second byte is bounded more tightly behind `F0`, where three bytes would do, and behind
`F4`, where the characters end. -/
theorem decodeChar_four (h : 0x10000 ≤ c.toNat) (rest : Bytes) :
    decodeChar (.ofNat (0xF0 + c.toNat / 262144)) (.ofNat (0x80 + c.toNat / 4096 % 64) ::
        .ofNat (0x80 + c.toNat / 64 % 64) :: .ofNat (0x80 + c.toNat % 64) :: rest) =
      (some c, 3) := by
  have hvalid : c.toNat < 0xD800 ∨ 0xDFFF < c.toNat ∧ c.toNat < 0x110000 := c.valid
  have hleast : (if c.toNat / 262144 = 0 then 0x90 else 0x80) ≤ 0x80 + c.toNat / 4096 % 64 := by
    split <;> omega
  have hgreatest : 0x80 + c.toNat / 4096 % 64 ≤ if c.toNat / 262144 = 4 then 0x8F else 0xBF := by
    split <;> omega
  have hnumber : ((c.toNat / 262144 * 64 + (0x80 + c.toNat / 4096 % 64) % 64) * 64 +
      c.toNat / 64 % 64) * 64 + c.toNat % 64 = c.toNat := by
    omega
  rw [decodeChar_of_leading? (by omega) (leading?_four _ (by omega)),
    continuation_cons hleast hgreatest (by omega), continuation_tail _ _ _ _ (by omega),
    continuation_tail _ _ _ _ (by omega), continuation, hnumber, Option.map_some, Char.ofNat_toNat]

/-- The bytes of a character are read as this character, all of them and nothing behind. -/
theorem exists_decodeChar_eq (c : Char) : ∃ b bytes, encodeChar c = b :: bytes ∧
    ∀ rest, decodeChar b (bytes ++ rest) = (some c, bytes.length) := by
  rw [encodeChar]
  split
  · next hone => exact ⟨_, _, rfl, decodeChar_one hone⟩
  split
  · next hone htwo => exact ⟨_, _, rfl, decodeChar_two (Nat.le_of_not_lt hone) htwo⟩
  split
  · next htwo hthree => exact ⟨_, _, rfl, decodeChar_three (Nat.le_of_not_lt htwo) hthree⟩
  · next hthree => exact ⟨_, _, rfl, decodeChar_four (Nat.le_of_not_lt hthree)⟩

/-! ## Reading a text -/

theorem decodeLossy_encodeChar_append (c : Char) (rest : Bytes) :
    decodeLossy (encodeChar c ++ rest) = c :: decodeLossy rest := by
  obtain ⟨b, bytes, hbytes, hdecode⟩ := exists_decodeChar_eq c
  rw [hbytes, List.cons_append, decodeLossy, hdecode, Option.getD_some, List.drop_left]

theorem decodeLossy_encodeChars (s : List Char) : decodeLossy (encodeChars s) = s := by
  induction s with
  | nil => simp [encodeChars, decodeLossy]
  | cons c s ih =>
    rw [encodeChars, List.flatMap_cons, decodeLossy_encodeChar_append]
    exact congrArg (c :: ·) ih

end Signpost.Text.Utf8
