import SignPost.Text.Utf8
import Mathlib.Tactic.Common

/-!
# Reading back UTF-8

`decodeLossy_encode`: the bytes of a text are read as that text, so no fault is ever put into it.
A character comes back whatever follows it (`head_encodeChar`): its first byte announces how many
bytes it has, and the bounds of the second byte leave out overlong forms and surrogates only.
-/

namespace SignPost.Utf8

/-! ## One character -/

theorem follow_ofNat {value width more low high n : Nat} (rest : Bytes) (hn : n < 256)
    (hlow : low ≤ n) (hhigh : n ≤ high) :
    follow value width (more + 1) low high (UInt8.ofNat n :: rest) =
      follow (value * 64 + (n - 0x80)) (width + 1) more 0x80 0xBF rest := by
  have hb : (UInt8.ofNat n).toNat = n := UInt8.toNat_ofNat_of_lt' hn
  rw [follow, hb, if_pos ⟨hlow, hhigh⟩]

theorem lead_two {n : Nat} (hlow : 0x80 ≤ n) (hhigh : n < 0x800) :
    lead (0xC0 + n / 64) = some (n / 64, 1, 0x80, 0xBF) := by
  rw [lead, if_neg (by omega), if_neg (by omega), if_pos (by omega)]
  simp

/-- The second byte of a character of three bytes lies within the bounds that the first sets. -/
theorem lead_three {n : Nat} (hlow : 0x800 ≤ n) (hhigh : n < 0x10000)
    (hvalid : n < 0xD800 ∨ 0xDFFF < n) :
    ∃ low high, lead (0xE0 + n / 4096) = some (n / 4096, 2, low, high) ∧
      low ≤ 0x80 + n / 64 % 64 ∧ 0x80 + n / 64 % 64 ≤ high := by
  by_cases hE0 : n / 4096 = 0
  · exact ⟨0xA0, 0xBF, by simp [lead, hE0], by omega, by omega⟩
  by_cases hED : n / 4096 = 13
  · exact ⟨0x80, 0x9F, by simp [lead, hED], by omega, by omega⟩
  · refine ⟨0x80, 0xBF, ?_, by omega, by omega⟩
    rw [lead, if_neg (by omega), if_neg (by omega), if_neg (by omega), if_neg (by omega),
      if_neg (by omega), if_pos (by omega)]
    simp

/-- The second byte of a character of four bytes lies within the bounds that the first sets. -/
theorem lead_four {n : Nat} (hlow : 0x10000 ≤ n) (hhigh : n < 0x110000) :
    ∃ low high, lead (0xF0 + n / 262144) = some (n / 262144, 3, low, high) ∧
      low ≤ 0x80 + n / 4096 % 64 ∧ 0x80 + n / 4096 % 64 ≤ high := by
  by_cases hF0 : n / 262144 = 0
  · exact ⟨0x90, 0xBF, by simp [lead, hF0], by omega, by omega⟩
  by_cases hF4 : n / 262144 = 4
  · exact ⟨0x80, 0x8F, by simp [lead, hF4], by omega, by omega⟩
  · refine ⟨0x80, 0xBF, ?_, by omega, by omega⟩
    rw [lead, if_neg (by omega), if_neg (by omega), if_neg (by omega), if_neg (by omega),
      if_neg (by omega), if_neg (by omega), if_neg (by omega), if_pos (by omega)]
    simp

theorem head_ofNat {n : Nat} (hn : n < 256) (rest : Bytes) {value more low high : Nat}
    (hlead : lead n = some (value, more, low, high)) :
    head (UInt8.ofNat n) rest = follow value 1 more low high rest := by
  have hb : (UInt8.ofNat n).toNat = n := UInt8.toNat_ofNat_of_lt' hn
  rw [head, hb, hlead]

/-- The bytes of a character are not empty, and are read as it whatever follows them. -/
theorem head_encodeChar (c : Char) (tail : Bytes) :
    ∃ b more, encodeChar c = b :: more ∧ head b (more ++ tail) = .scalar c (more.length + 1) := by
  have hvalid : c.toNat < 0xD800 ∨ 0xDFFF < c.toNat ∧ c.toNat < 0x110000 := c.valid
  have hback : Char.ofNat c.toNat = c := Char.ofNat_toNat c
  unfold encodeChar
  dsimp only
  generalize c.toNat = n at hvalid hback ⊢
  split_ifs with h1 h2 h3
  · refine ⟨_, _, rfl, ?_⟩
    have hlead : lead n = some (n, 0, 0x80, 0xBF) := by rw [lead, if_pos h1]
    rw [head_ofNat (by omega) _ hlead]
    simp [follow, hback]
  · refine ⟨_, _, rfl, ?_⟩
    have hcode : n / 64 * 64 + (0x80 + n % 64 - 0x80) = n := by omega
    rw [head_ofNat (by omega) _ (lead_two (by omega) h2), List.singleton_append,
      follow_ofNat _ (by omega) (by omega) (by omega), hcode]
    simp [follow, hback]
  · refine ⟨_, _, rfl, ?_⟩
    obtain ⟨low, high, hlead, hlow, hhigh⟩ := lead_three (by omega) h3 (by omega)
    have hcode : (n / 4096 * 64 + (0x80 + n / 64 % 64 - 0x80)) * 64 +
        (0x80 + n % 64 - 0x80) = n := by omega
    rw [head_ofNat (by omega) _ hlead, List.cons_append, List.singleton_append,
      follow_ofNat _ (by omega) hlow hhigh, follow_ofNat _ (by omega) (by omega) (by omega), hcode]
    simp [follow, hback]
  · refine ⟨_, _, rfl, ?_⟩
    obtain ⟨low, high, hlead, hlow, hhigh⟩ := lead_four (n := n) (by omega) (by omega)
    have hcode : ((n / 262144 * 64 + (0x80 + n / 4096 % 64 - 0x80)) * 64 +
        (0x80 + n / 64 % 64 - 0x80)) * 64 + (0x80 + n % 64 - 0x80) = n := by omega
    rw [head_ofNat (by omega) _ hlead, List.cons_append, List.cons_append, List.singleton_append,
      follow_ofNat _ (by omega) hlow hhigh, follow_ofNat _ (by omega) (by omega) (by omega),
      follow_ofNat _ (by omega) (by omega) (by omega), hcode]
    simp [follow, hback]

theorem encodeChar_of_ascii {c : Char} (h : c.toNat < 128) :
    encodeChar c = [UInt8.ofNat c.toNat] := by
  rw [encodeChar, if_pos h]

/-- No byte of a character beyond ASCII is ASCII. -/
theorem le_of_mem_encodeChar {c : Char} {b : UInt8} (h : 128 ≤ c.toNat) (hb : b ∈ encodeChar c) :
    128 ≤ b.toNat := by
  have hvalid : c.toNat < 0x110000 := by
    rcases c.valid with hlow | ⟨-, hhigh⟩
    · exact Nat.lt_of_lt_of_le hlow (by decide)
    · exact hhigh
  have hbyte : ∀ {n : Nat}, 128 ≤ n → n < 256 → b = UInt8.ofNat n → 128 ≤ b.toNat := by
    rintro n hlow hhigh rfl
    rwa [UInt8.toNat_ofNat_of_lt' hhigh]
  unfold encodeChar at hb
  dsimp only at hb
  split_ifs at hb with h1 h2 h3
  · omega
  · simp only [List.mem_cons, List.not_mem_nil, or_false] at hb
    rcases hb with hb | hb <;> exact hbyte (by omega) (by omega) hb
  · simp only [List.mem_cons, List.not_mem_nil, or_false] at hb
    rcases hb with hb | hb | hb <;> exact hbyte (by omega) (by omega) hb
  · simp only [List.mem_cons, List.not_mem_nil, or_false] at hb
    rcases hb with hb | hb | hb | hb <;> exact hbyte (by omega) (by omega) hb

/-! ## Texts -/

theorem decodeLossy_encodeChar (c : Char) (tail : Bytes) :
    decodeLossy (encodeChar c ++ tail) = c :: decodeLossy tail := by
  obtain ⟨b, more, hbytes, hhead⟩ := head_encodeChar c tail
  rw [hbytes, List.cons_append, decodeLossy, hhead]
  simp

theorem decodeLossy_encode (text : List Char) : decodeLossy (encode text) = text := by
  induction text with
  | nil => simp [encode, decodeLossy]
  | cons c text ih =>
    rw [encode, List.flatMap_cons, decodeLossy_encodeChar]
    exact congrArg (c :: ·) ih

theorem encode_injective {s t : List Char} (h : encode s = encode t) : s = t := by
  rw [← decodeLossy_encode s, h, decodeLossy_encode]

theorem ofString_injective {s t : String} (h : ofString s = ofString t) : s = t :=
  String.toList_injective (encode_injective h)

/-- Bytes of ASCII, taken as characters, are their own encoding. -/
theorem encode_map_ofNat {bytes : Bytes} (h : ∀ b ∈ bytes, b.toNat < 128) :
    encode (bytes.map fun b => Char.ofNat b.toNat) = bytes := by
  induction bytes with
  | nil => rfl
  | cons b bytes ih =>
    obtain ⟨hb, hrest⟩ := List.forall_mem_cons.1 h
    have hcode : (Char.ofNat b.toNat).toNat = b.toNat := by
      rw [Char.ofNat, dif_pos (Or.inl (by omega))]; rfl
    have hchar : encodeChar (Char.ofNat b.toNat) = [b] := by
      rw [encodeChar, hcode, if_pos hb]
      simp
    rw [List.map_cons, encode, List.flatMap_cons, hchar]
    exact congrArg (b :: ·) (ih hrest)

end SignPost.Utf8
