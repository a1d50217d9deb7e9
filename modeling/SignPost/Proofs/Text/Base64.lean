import SignPost.Text.Base64
import SignPost.Proofs.Text.Utf8

/-!
# Reading back base64

`decodeForm_encode`: reading undoes writing, for every byte string. Written symbols are ASCII and
no blanks, so nothing is dropped from them and they are their own bytes; they come in whole groups,
so no stray end is found; and each group gives its three bytes back (`lastBytes_full`), the last
one also with padding in it.

`decodeForm_eq`: a form value is read as what it is without its blanks, also where no blanks were
looked for because none of its bytes is one.
-/

namespace SignPost.Base64

/-! ## Symbols -/

theorem value_symbol {n : Nat} (h : n < 64) : value (symbol n) = some n := by
  revert n
  decide

theorem symbol_plain {n : Nat} (h : n < 64) :
    (symbol n).toNat < 128 ∧ symbol n ≠ pad ∧
      Text.isAsciiBlank (Char.ofNat (symbol n).toNat) = false := by
  revert n
  decide

theorem symbol_ne_pad {n : Nat} (h : n < 64) : symbol n ≠ pad :=
  (symbol_plain h).2.1

/-- Every byte that is written is ASCII and no blank. -/
theorem symbols_plain (bytes : Bytes) :
    ∀ x ∈ symbols bytes, x.toNat < 128 ∧ Text.isAsciiBlank (Char.ofNat x.toNat) = false := by
  have hsymbol : ∀ {n : Nat}, n < 64 → (symbol n).toNat < 128 ∧
      Text.isAsciiBlank (Char.ofNat (symbol n).toNat) = false :=
    fun h => ⟨(symbol_plain h).1, (symbol_plain h).2.2⟩
  have hpad : pad.toNat < 128 ∧ Text.isAsciiBlank (Char.ofNat pad.toNat) = false := by decide
  induction bytes using symbols.induct with
  | case1 => simp [symbols]
  | case2 a =>
    have ha := a.toNat_lt
    rw [symbols]
    simp only [List.forall_mem_cons, List.not_mem_nil, false_implies, implies_true, and_true]
    exact ⟨hsymbol (by omega), hsymbol (by omega), hpad, hpad⟩
  | case3 a b =>
    have ha := a.toNat_lt
    have hb := b.toNat_lt
    rw [symbols]
    simp only [List.forall_mem_cons, List.not_mem_nil, false_implies, implies_true, and_true]
    exact ⟨hsymbol (by omega), hsymbol (by omega), hsymbol (by omega), hpad⟩
  | case4 a b c rest ih =>
    have ha := a.toNat_lt
    have hb := b.toNat_lt
    have hc := c.toNat_lt
    rw [symbols]
    simp only [List.forall_mem_cons]
    exact ⟨hsymbol (by omega), hsymbol (by omega), hsymbol (by omega), hsymbol (by omega), ih⟩

theorem length_symbols_mod (bytes : Bytes) : (symbols bytes).length % 4 = 0 := by
  induction bytes using symbols.induct with
  | case1 => rfl
  | case2 a => simp [symbols]
  | case3 a b => simp [symbols]
  | case4 a b c rest ih => simp only [symbols, List.length_cons]; omega

/-! ## Groups -/

theorem values_cons {n offset : Nat} (h : n < 64) (rest : Bytes) :
    values offset (symbol n :: rest) = (values (offset + 1) rest).map (n :: ·) := by
  rw [values, value_symbol h]
  cases values (offset + 1) rest <;> rfl

/-- The values of a full group are the six bit parts of three bytes. -/
theorem values_full (offset : Nat) (a b c : UInt8) :
    values offset [symbol (a.toNat / 4), symbol (a.toNat % 4 * 16 + b.toNat / 16),
        symbol (b.toNat % 16 * 4 + c.toNat / 64), symbol (c.toNat % 64)] =
      .ok [a.toNat / 4, a.toNat % 4 * 16 + b.toNat / 16, b.toNat % 16 * 4 + c.toNat / 64,
        c.toNat % 64] := by
  have ha := a.toNat_lt
  have hb := b.toNat_lt
  have hc := c.toNat_lt
  rw [values_cons (by omega), values_cons (by omega), values_cons (by omega),
    values_cons (by omega)]
  rfl

/-- Six bit parts of three bytes make up the bytes. -/
theorem lastBytes_full (offset : Nat) (group : Bytes) (a b c : UInt8) :
    lastBytes offset group [a.toNat / 4, a.toNat % 4 * 16 + b.toNat / 16,
        b.toNat % 16 * 4 + c.toNat / 64, c.toNat % 64] = .ok [a, b, c] := by
  have ha := a.toNat_lt
  have hb := b.toNat_lt
  have hc := c.toNat_lt
  have h1 : a.toNat / 4 * 4 + (a.toNat % 4 * 16 + b.toNat / 16) / 16 = a.toNat := by omega
  have h2 : (a.toNat % 4 * 16 + b.toNat / 16) % 16 * 16 +
      (b.toNat % 16 * 4 + c.toNat / 64) / 4 = b.toNat := by omega
  have h3 : (b.toNat % 16 * 4 + c.toNat / 64) % 4 * 64 + c.toNat % 64 = c.toNat := by omega
  simp only [lastBytes, h1, h2, h3, UInt8.ofNat_toNat]

theorem decodeLast_full (offset : Nat) (a b c : UInt8) :
    decodeLast offset [symbol (a.toNat / 4), symbol (a.toNat % 4 * 16 + b.toNat / 16),
      symbol (b.toNat % 16 * 4 + c.toNat / 64), symbol (c.toNat % 64)] = .ok [a, b, c] := by
  have ha := a.toNat_lt
  have hb := b.toNat_lt
  have hc := c.toNat_lt
  have h1 := symbol_ne_pad (n := a.toNat / 4) (by omega)
  have h2 := symbol_ne_pad (n := a.toNat % 4 * 16 + b.toNat / 16) (by omega)
  have h3 := symbol_ne_pad (n := b.toNat % 16 * 4 + c.toNat / 64) (by omega)
  have h4 := symbol_ne_pad (n := c.toNat % 64) (by omega)
  simp [decodeLast, h1, h2, h3, h4, values_full, lastBytes_full]

theorem decodeLast_one (offset : Nat) (a : UInt8) :
    decodeLast offset [symbol (a.toNat / 4), symbol (a.toNat % 4 * 16), pad, pad] = .ok [a] := by
  have ha := a.toNat_lt
  have h1 := symbol_ne_pad (n := a.toNat / 4) (by omega)
  have h2 := symbol_ne_pad (n := a.toNat % 4 * 16) (by omega)
  have hvalues : values offset [symbol (a.toNat / 4), symbol (a.toNat % 4 * 16)] =
      .ok [a.toNat / 4, a.toNat % 4 * 16] := by
    rw [values_cons (by omega), values_cons (by omega)]
    rfl
  have hlast : lastBytes offset [symbol (a.toNat / 4), symbol (a.toNat % 4 * 16), pad, pad]
      [a.toNat / 4, a.toNat % 4 * 16] = .ok [a] := by
    have hback : a.toNat / 4 * 4 + a.toNat % 4 * 16 / 16 = a.toNat := by omega
    rw [lastBytes, if_neg (by simp), if_neg (by omega), hback, UInt8.ofNat_toNat]
  simp [decodeLast, h1, h2, hvalues, hlast]

theorem decodeLast_two (offset : Nat) (a b : UInt8) :
    decodeLast offset [symbol (a.toNat / 4), symbol (a.toNat % 4 * 16 + b.toNat / 16),
      symbol (b.toNat % 16 * 4), pad] = .ok [a, b] := by
  have ha := a.toNat_lt
  have hb := b.toNat_lt
  have h1 := symbol_ne_pad (n := a.toNat / 4) (by omega)
  have h2 := symbol_ne_pad (n := a.toNat % 4 * 16 + b.toNat / 16) (by omega)
  have h3 := symbol_ne_pad (n := b.toNat % 16 * 4) (by omega)
  have hvalues : values offset [symbol (a.toNat / 4), symbol (a.toNat % 4 * 16 + b.toNat / 16),
      symbol (b.toNat % 16 * 4)] =
      .ok [a.toNat / 4, a.toNat % 4 * 16 + b.toNat / 16, b.toNat % 16 * 4] := by
    rw [values_cons (by omega), values_cons (by omega), values_cons (by omega)]
    rfl
  have hlast : lastBytes offset [symbol (a.toNat / 4), symbol (a.toNat % 4 * 16 + b.toNat / 16),
      symbol (b.toNat % 16 * 4), pad]
      [a.toNat / 4, a.toNat % 4 * 16 + b.toNat / 16, b.toNat % 16 * 4] = .ok [a, b] := by
    have hfirst : a.toNat / 4 * 4 + (a.toNat % 4 * 16 + b.toNat / 16) / 16 = a.toNat := by omega
    have hsecond : (a.toNat % 4 * 16 + b.toNat / 16) % 16 * 16 + b.toNat % 16 * 4 / 4 =
        b.toNat := by omega
    rw [lastBytes, if_neg (by simp), if_neg (by omega), hfirst, hsecond, UInt8.ofNat_toNat,
      UInt8.ofNat_toNat]
  simp [decodeLast, h1, h2, h3, hvalues, hlast]

/-! ## Texts -/

theorem symbols_cons_ne_nil (b : UInt8) (rest : Bytes) :
    ∃ x xs, symbols (b :: rest) = x :: xs := by
  match rest with
  | [] => exact ⟨_, _, rfl⟩
  | [_] => exact ⟨_, _, rfl⟩
  | _ :: _ :: _ => exact ⟨_, _, rfl⟩

/-- The symbols of a byte string are read as it, from any offset on. -/
theorem decodeFrom_symbols (bytes : Bytes) (offset : Nat) :
    decodeFrom offset (symbols bytes) = .ok bytes := by
  induction bytes using symbols.induct generalizing offset with
  | case1 => rfl
  | case2 a => exact decodeLast_one offset a
  | case3 a b => exact decodeLast_two offset a b
  | case4 a b c rest ih =>
    rw [symbols]
    cases rest with
    | nil => exact decodeLast_full offset a b c
    | cons d more =>
      obtain ⟨x, xs, hx⟩ := symbols_cons_ne_nil d more
      have hrest := ih (offset + 4)
      rw [hx] at hrest
      rw [hx, decodeFrom, values_full]
      simp only [lastBytes_full, hrest]
      rfl

theorem decodeBytes_symbols (bytes : Bytes) : decodeBytes (symbols bytes) = .ok bytes := by
  have hend : strayEnd (symbols bytes) = none := by
    rw [strayEnd, if_neg (by rw [length_symbols_mod]; decide)]
  rw [decodeBytes, hend]
  exact decodeFrom_symbols bytes 0

theorem ofString_encode (bytes : Bytes) : Utf8.ofString (encode bytes) = symbols bytes := by
  rw [Utf8.ofString, encode, String.toList_ofList,
    Utf8.encode_map_ofNat fun x hx => (symbols_plain bytes x hx).1]

/-- Behind full groups a byte string is written as if it stood alone. -/
theorem symbols_append {bytes : Bytes} (h : bytes.length % 3 = 0) (more : Bytes) :
    symbols (bytes ++ more) = symbols bytes ++ symbols more := by
  induction bytes using symbols.induct with
  | case1 => rfl
  | case2 a => simp at h
  | case3 a b => simp at h
  | case4 a b c rest ih =>
    have hrest : rest.length % 3 = 0 := by
      simp only [List.length_cons] at h
      omega
    simp only [List.cons_append, symbols, ih hrest]

theorem decode_encode (bytes : Bytes) : decode (encode bytes) = .ok bytes := by
  rw [decode, ofString_encode, decodeBytes_symbols]

/-! ## Blanks -/

theorem isBlankByte_ofNat {n : Nat} (h : n < 128) :
    isBlankByte (UInt8.ofNat n) = Text.isAsciiBlank (Char.ofNat n) := by
  revert n
  decide

theorem any_isBlankByte_encodeChar (c : Char) :
    (Utf8.encodeChar c).any isBlankByte = Text.isAsciiBlank c := by
  by_cases h : c.toNat < 128
  · rw [Utf8.encodeChar_of_ascii h, List.any_cons, List.any_nil, Bool.or_false,
      isBlankByte_ofNat h, Char.ofNat_toNat]
  · have hchar : Text.isAsciiBlank c = false := by
      simp only [Text.isAsciiBlank, Bool.or_eq_false_iff, decide_eq_false_iff_not]
      refine ⟨⟨⟨⟨?_, ?_⟩, ?_⟩, ?_⟩, ?_⟩ <;> rintro rfl <;> exact h (by decide)
    rw [hchar, List.any_eq_false]
    intro b hb
    have hbyte := Utf8.le_of_mem_encodeChar (Nat.le_of_not_lt h) hb
    simp only [isBlankByte, Bool.or_eq_true, decide_eq_true_eq]
    rintro ((((rfl | rfl) | rfl) | rfl) | rfl) <;> exact absurd hbyte (by decide)

/-- A text has a blank byte if it has a blank character, as blanks are ASCII. -/
theorem any_isBlankByte (text : String) :
    (Utf8.ofString text).any isBlankByte = text.toList.any Text.isAsciiBlank := by
  rw [Utf8.ofString, Utf8.encode, List.any_flatMap]
  exact congrArg (text.toList.any ·) (funext any_isBlankByte_encodeChar)

theorem compact_of_none {text : String} (h : text.toList.any Text.isAsciiBlank = false) :
    compact text = text := by
  rw [compact, List.filter_eq_self.2, String.ofList_toList]
  intro c hc
  rw [Bool.not_eq_true', ← Bool.not_eq_true]
  exact List.any_eq_false.1 h c hc

/-- Both ways of reading a form value come to reading it without its blanks. -/
theorem decodeForm_eq (text : String) : decodeForm text = decode (compact text) := by
  rw [decodeForm, any_isBlankByte]
  split
  · rfl
  · next h => rw [compact_of_none (Bool.not_eq_true _ ▸ h)]

theorem compact_encode (bytes : Bytes) : compact (encode bytes) = encode bytes := by
  refine compact_of_none (List.any_eq_false.2 fun c hc => ?_)
  rw [encode, String.toList_ofList] at hc
  obtain ⟨x, hx, rfl⟩ := List.mem_map.1 hc
  rw [(symbols_plain bytes x hx).2]
  exact Bool.false_ne_true

/-- What is written for a byte string is read as it. -/
theorem decodeForm_encode (bytes : Bytes) : decodeForm (encode bytes) = .ok bytes := by
  rw [decodeForm_eq, compact_encode, decode_encode]

/-- Texts that differ in ASCII blanks only are read as the same. -/
theorem decodeForm_congr {s t : String}
    (h : s.toList.filter (fun c => !Text.isAsciiBlank c) =
      t.toList.filter fun c => !Text.isAsciiBlank c) : decodeForm s = decodeForm t := by
  rw [decodeForm_eq, decodeForm_eq, compact, compact, h]

end SignPost.Base64
