import SignPost.Text.Hex
import SignPost.Proofs.Text.Utf8

/-!
# Which texts are hexadecimal

`decode_encode_eq_ok`: a text is read as a byte string if and only if it spells it (`Spells`), two
digits of either case for each byte, and nothing else among them. The reader sees the bytes of the
text; a character beyond ASCII has no byte that is a digit, so digits are whole characters.

`spells_iff_map_toLower`: a text spells a byte string if it is, in lower case, what is written for
it.
-/

namespace SignPost.Hex

/-! ## Digits -/

def lowerDigits : List Char := "0123456789abcdef".toList
def upperDigits : List Char := "0123456789ABCDEF".toList

/-- A character is the digit of a number, in one of the two cases. -/
def IsDigit (c : Char) (n : Nat) : Prop :=
  lowerDigits[n]? = some c ∨ upperDigits[n]? = some c

instance (c : Char) (n : Nat) : Decidable (IsDigit c n) :=
  inferInstanceAs (Decidable (_ ∨ _))

theorem lowerDigits_eq : lowerDigits = (List.range 16).map digit := by decide

theorem upperDigits_eq : upperDigits = (List.range 16).map upperDigit := by decide

theorem isDigit_iff {c : Char} {n : Nat} :
    IsDigit c n ↔ n < 16 ∧ (c = digit n ∨ c = upperDigit n) := by
  rw [IsDigit, lowerDigits_eq, upperDigits_eq, List.getElem?_map, List.getElem?_map]
  by_cases h : n < 16
  · simp [h, eq_comm]
  · simp [h]

theorem IsDigit.lt {c : Char} {n : Nat} (h : IsDigit c n) : n < 16 :=
  (isDigit_iff.1 h).1

theorem digitValue_digit {n : Nat} (h : n < 16) : digitValue (digit n).toNat = some n := by
  have hall : ∀ m < 16, digitValue (digit m).toNat = some m := by decide
  exact hall n h

theorem digitValue_of_isDigit {c : Char} {n : Nat} (h : IsDigit c n) :
    digitValue c.toNat = some n := by
  obtain ⟨hn, rfl | rfl⟩ := isDigit_iff.1 h
  · exact digitValue_digit hn
  · have hall : ∀ m < 16, digitValue (upperDigit m).toNat = some m := by decide
    exact hall n hn

/-- What has a value is the code of a digit. -/
theorem isDigit_of_digitValue {m n : Nat} (h : digitValue m = some n) :
    m < 128 ∧ IsDigit (Char.ofNat m) n := by
  have hlt : m < 128 := by
    unfold digitValue at h
    split_ifs at h <;> omega
  have hall : ∀ m < 128, ∀ n ∈ digitValue m, IsDigit (Char.ofNat m) n := by decide +kernel
  exact ⟨hlt, hall m hlt n h⟩

theorem isDigit_ascii {c : Char} {n : Nat} (h : IsDigit c n) : c.toNat < 128 :=
  (isDigit_of_digitValue (digitValue_of_isDigit h)).1

/-- Only letters of ASCII have another lower case. -/
theorem toLower_of_not_ascii {c : Char} (h : ¬c.toNat < 128) : c.toLower = c := by
  unfold Char.toLower
  rw [dif_neg]
  rintro ⟨-, hle⟩
  have : c.toNat ≤ 90 := hle
  omega

theorem digitValue_toLower (c : Char) : digitValue c.toLower.toNat = digitValue c.toNat := by
  by_cases hc : c.toNat < 128
  · have hall : ∀ m < 128,
        digitValue (Char.ofNat m).toLower.toNat = digitValue (Char.ofNat m).toNat := by
      decide +kernel
    have hcode := hall c.toNat hc
    rwa [Char.ofNat_toNat] at hcode
  · rw [toLower_of_not_ascii hc]

theorem toLower_digit {n : Nat} (h : n < 16) : (digit n).toLower = digit n := by
  have hall : ∀ m < 16, (digit m).toLower = digit m := by decide
  exact hall n h

theorem isDigit_iff_toLower {c : Char} {n : Nat} (hn : n < 16) :
    IsDigit c n ↔ c.toLower = digit n := by
  constructor
  · intro h
    obtain ⟨-, rfl | rfl⟩ := isDigit_iff.1 h
    · exact toLower_digit hn
    · have hall : ∀ m < 16, (upperDigit m).toLower = digit m := by decide
      exact hall n hn
  · intro h
    have hvalue : digitValue c.toNat = some n := by
      rw [← digitValue_toLower, h, digitValue_digit hn]
    have hc := (isDigit_of_digitValue hvalue).2
    rwa [Char.ofNat_toNat] at hc

/-! ## Texts of digits -/

/-- A text of digit pairs, and the bytes whose upper and lower half the digits of each pair are. -/
inductive Spells : List Char → Bytes → Prop where
  | nil : Spells [] []
  | cons {high low : Char} {b : UInt8} {text : List Char} {bytes : Bytes}
      (hhigh : IsDigit high (b.toNat / 16)) (hlow : IsDigit low (b.toNat % 16))
      (hrest : Spells text bytes) : Spells (high :: low :: text) (b :: bytes)

/-- Two digits spell the byte whose halves they are. -/
theorem Spells.pair {high low : Char} {u v : Nat} {text : List Char} {bytes : Bytes}
    (hhigh : IsDigit high u) (hlow : IsDigit low v) (hrest : Spells text bytes) :
    Spells (high :: low :: text) (UInt8.ofNat (u * 16 + v) :: bytes) := by
  have hu := hhigh.lt
  have hv := hlow.lt
  have hbyte : (UInt8.ofNat (u * 16 + v)).toNat = u * 16 + v := by
    have hlt : u * 16 + v < 256 := by omega
    exact UInt8.toNat_ofNat_of_lt' hlt
  refine Spells.cons ?_ ?_ hrest
  · rwa [hbyte, show (u * 16 + v) / 16 = u by omega]
  · rwa [hbyte, show (u * 16 + v) % 16 = v by omega]

theorem Spells.length_eq {text : List Char} {bytes : Bytes} (h : Spells text bytes) :
    text.length = 2 * bytes.length := by
  induction h with
  | nil => rfl
  | cons _ _ _ ih =>
    simp only [List.length_cons, ih]
    omega

theorem Spells.isDigit {text : List Char} {bytes : Bytes} (h : Spells text bytes) :
    ∀ c ∈ text, ∃ n, IsDigit c n := by
  induction h with
  | nil => exact fun c hc => absurd hc List.not_mem_nil
  | cons hhigh hlow _ ih =>
    exact List.forall_mem_cons.2 ⟨⟨_, hhigh⟩, List.forall_mem_cons.2 ⟨⟨_, hlow⟩, ih⟩⟩

/-- An even number of digits spells some bytes. -/
theorem exists_spells {text : List Char} {count : Nat} (hcount : text.length = 2 * count)
    (h : ∀ c ∈ text, ∃ n, IsDigit c n) : ∃ bytes, Spells text bytes := by
  induction count generalizing text with
  | zero =>
    obtain rfl := List.length_eq_zero_iff.1 hcount
    exact ⟨[], Spells.nil⟩
  | succ count ih =>
    match text, hcount, h with
    | [_], hcount, _ => simp only [List.length_singleton] at hcount; omega
    | high :: low :: text, hcount, h =>
      simp only [List.length_cons] at hcount
      obtain ⟨⟨u, hu⟩, h⟩ := List.forall_mem_cons.1 h
      obtain ⟨⟨v, hv⟩, h⟩ := List.forall_mem_cons.1 h
      obtain ⟨bytes, hbytes⟩ := ih (by omega) h
      exact ⟨_, Spells.pair hu hv hbytes⟩

/-- What is spelled is read, from whatever offset. -/
theorem Spells.decodeFrom {text : List Char} {bytes : Bytes} (h : Spells text bytes)
    (offset : Nat) :
    Hex.decodeFrom offset (Utf8.encode text) = .ok bytes ∧
      (Utf8.encode text).length = 2 * bytes.length := by
  induction h generalizing offset with
  | nil => exact ⟨rfl, rfl⟩
  | @cons high low b text bytes hhigh hlow _ ih =>
    obtain ⟨hread, hlength⟩ := ih (offset + 2)
    have hencode : Utf8.encode (high :: low :: text) =
        UInt8.ofNat high.toNat :: UInt8.ofNat low.toNat :: Utf8.encode text := by
      simp only [Utf8.encode, List.flatMap_cons, Utf8.encodeChar_of_ascii (isDigit_ascii hhigh),
        Utf8.encodeChar_of_ascii (isDigit_ascii hlow), List.singleton_append]
    have hcode : ∀ {c : Char} {n : Nat}, IsDigit c n → (UInt8.ofNat c.toNat).toNat = c.toNat := by
      intro c n hc
      have hlt : c.toNat < 256 := Nat.lt_trans (isDigit_ascii hc) (by decide)
      exact UInt8.toNat_ofNat_of_lt' hlt
    have hback : b.toNat / 16 * 16 + b.toNat % 16 = b.toNat := by omega
    rw [hencode]
    refine ⟨?_, by simp only [List.length_cons, hlength]; omega⟩
    rw [Hex.decodeFrom, hcode hhigh, hcode hlow, digitValue_of_isDigit hhigh,
      digitValue_of_isDigit hlow]
    simp only [hread, hback, UInt8.ofNat_toNat]

/-- What is read is spelled by the bytes of the text, taken as characters. -/
theorem spells_of_decodeFrom {offset : Nat} {text bytes : Bytes}
    (h : decodeFrom offset text = .ok bytes) :
    (∀ b ∈ text, b.toNat < 128) ∧ Spells (text.map fun b => Char.ofNat b.toNat) bytes := by
  fun_induction decodeFrom offset text generalizing bytes with
  | case1 =>
    obtain rfl := Except.ok.inj h
    exact ⟨fun b hb => absurd hb List.not_mem_nil, Spells.nil⟩
  | case2 => cases h
  | case3 => cases h
  | case4 => cases h
  | case5 offset high low rest u v hlow hhigh more hmore ih =>
    obtain rfl := Except.ok.inj h
    obtain ⟨hrest, hspells⟩ := ih hmore
    obtain ⟨hhighLt, hhighDigit⟩ := isDigit_of_digitValue hhigh
    obtain ⟨hlowLt, hlowDigit⟩ := isDigit_of_digitValue hlow
    refine ⟨List.forall_mem_cons.2 ⟨hhighLt, List.forall_mem_cons.2 ⟨hlowLt, hrest⟩⟩, ?_⟩
    exact Spells.pair hhighDigit hlowDigit hspells
  | case6 => cases h

/-- A text is read as a byte string if it spells it, and only then. -/
theorem decode_encode_eq_ok {text : List Char} {bytes : Bytes} :
    decode (Utf8.encode text) = .ok bytes ↔ Spells text bytes := by
  constructor
  · intro h
    unfold decode at h
    split_ifs at h
    obtain ⟨hascii, hspells⟩ := spells_of_decodeFrom h
    have htext : text = (Utf8.encode text).map fun b => Char.ofNat b.toNat :=
      Utf8.encode_injective (Utf8.encode_map_ofNat hascii).symm
    rwa [htext]
  · intro h
    obtain ⟨hread, hlength⟩ := h.decodeFrom 0
    rw [decode, if_neg (by omega), hread]

theorem exists_digit_of_mem_encode {bytes : Bytes} {c : Char} (h : c ∈ (encode bytes).toList) :
    ∃ n < 16, c = digit n := by
  rw [encode, String.toList_ofList] at h
  obtain ⟨b, -, hc⟩ := List.mem_flatMap.1 h
  have hb := b.toNat_lt
  simp only [pair, List.mem_cons, List.not_mem_nil, or_false] at hc
  rcases hc with rfl | rfl
  · exact ⟨_, by omega, rfl⟩
  · exact ⟨_, by omega, rfl⟩

/-- A text spells a byte string if it is, but for the case of letters, what is written for it. -/
theorem spells_iff_map_toLower {text : List Char} {bytes : Bytes} :
    Spells text bytes ↔ text.map Char.toLower = (encode bytes).toList := by
  rw [encode, String.toList_ofList]
  constructor
  · intro h
    induction h with
    | nil => rfl
    | @cons high low b text bytes hhigh hlow _ ih =>
      rw [List.map_cons, List.map_cons, ih, (isDigit_iff_toLower hhigh.lt).1 hhigh,
        (isDigit_iff_toLower hlow.lt).1 hlow]
      rfl
  · intro h
    induction bytes generalizing text with
    | nil =>
      obtain rfl := List.map_eq_nil_iff.1 h
      exact Spells.nil
    | cons b bytes ih =>
      have hb := b.toNat_lt
      match text, h with
      | [_], h => simp [pair] at h
      | high :: low :: text, h =>
        simp only [List.map_cons, List.flatMap_cons, pair, List.cons_append, List.nil_append,
          List.cons.injEq] at h
        obtain ⟨hhigh, hlow, hrest⟩ := h
        exact Spells.cons ((isDigit_iff_toLower (by omega)).2 hhigh)
          ((isDigit_iff_toLower (by omega)).2 hlow) (ih hrest)

end SignPost.Hex
