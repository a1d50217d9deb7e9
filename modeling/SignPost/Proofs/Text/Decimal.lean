import SignPost.Text.Decimal
import SignPost.Proofs.Text.Blank
import Mathlib.Algebra.Group.Nat.Defs

/-!
# Reading decimal numbers

`parseCount_eq_some`: which texts are read as which count. `parseCount_toString`: a count that fits
is read as the number that was written. Numbers are written without sign and blanks, so nothing is
dropped from them. `ofDigits_padded`: neither do leading zeros change a number of a fixed width.
-/

namespace SignPost.Decimal

theorem digitValue_of_isDigit {c : Char} (h : c.isDigit = true) :
    digitValue c = some (c.toNat - 48) := by
  have hc : 48 ≤ c.toNat ∧ c.toNat ≤ 57 := Char.isDigit_iff_toNat.1 h
  rw [digitValue, if_pos hc]

/-- Digits spell the number that they have in base ten. -/
theorem digitsFrom_eq {digits : List Char} (h : ∀ c ∈ digits, c.isDigit = true) (high : Nat) :
    digitsFrom high digits = some (Nat.ofDigitChars 10 digits high) := by
  induction digits generalizing high with
  | nil => rw [digitsFrom, Nat.ofDigitChars_nil]
  | cons c digits ih =>
    obtain ⟨hc, hrest⟩ := List.forall_mem_cons.1 h
    rw [digitsFrom, digitValue_of_isDigit hc, Nat.ofDigitChars_cons, Nat.mul_comm 10 high]
    exact ih hrest _

theorem isDigit_of_mem {n : Nat} {c : Char} (h : c ∈ Nat.toDigits 10 n) : c.isDigit = true :=
  Nat.isDigit_of_mem_toDigits (by decide) (by decide) h

theorem isBlank_of_isDigit {c : Char} (h : c.isDigit = true) : Text.isBlank c = false := by
  have hc : 48 ≤ c.toNat ∧ c.toNat ≤ 57 := Char.isDigit_iff_toNat.1 h
  simp only [Text.isBlank, Bool.or_eq_false_iff, Bool.and_eq_false_iff, decide_eq_false_iff_not]
  omega

theorem unsigned_of_digits {digits : List Char} (h : ∀ c ∈ digits, c.isDigit = true) :
    unsigned digits = digits := by
  unfold unsigned
  split
  · exact absurd (h '+' List.mem_cons_self) (by decide)
  · rfl

theorem isDigit_of_digitValue {c : Char} {d : Nat} (h : digitValue c = some d) :
    c.isDigit = true := by
  rw [digitValue] at h
  split_ifs at h with hc
  exact Char.isDigit_iff_toNat.2 hc

theorem isDigit_of_digitsFrom {digits : List Char} {high n : Nat}
    (h : digitsFrom high digits = some n) : ∀ c ∈ digits, c.isDigit = true := by
  induction digits generalizing high with
  | nil => simp
  | cons c digits ih =>
    rw [digitsFrom] at h
    split at h
    next d hd => exact List.forall_mem_cons.2 ⟨isDigit_of_digitValue hd, ih h⟩
    next => cases h

theorem ofDigits_eq_some {digits : List Char} {n : Nat} :
    ofDigits digits = some n ↔
      digits ≠ [] ∧ (∀ c ∈ digits, c.isDigit = true) ∧ Nat.ofDigitChars 10 digits 0 = n := by
  unfold ofDigits
  constructor
  · intro h
    split_ifs at h with hempty
    have hdigits := isDigit_of_digitsFrom h
    rw [digitsFrom_eq hdigits] at h
    exact ⟨by simpa using hempty, hdigits, Option.some.inj h⟩
  · rintro ⟨hne, hdigits, rfl⟩
    rw [if_neg (by simpa using hne), digitsFrom_eq hdigits]

/-- The text spells the number: with at least one digit, and with or without a plus sign before
them. Zeros may lead. -/
def Spells (text : List Char) (n : Nat) : Prop :=
  ∃ digits : List Char, digits ≠ [] ∧ (∀ c ∈ digits, c.isDigit = true) ∧
    (text = digits ∨ text = '+' :: digits) ∧ Nat.ofDigitChars 10 digits 0 = n

theorem ofDigits_unsigned {text : List Char} {n : Nat} :
    ofDigits (unsigned text) = some n ↔ Spells text n := by
  constructor
  · intro h
    obtain ⟨hne, hdigits, hvalue⟩ := ofDigits_eq_some.1 h
    refine ⟨unsigned text, hne, hdigits, ?_, hvalue⟩
    unfold unsigned
    split
    · exact Or.inr rfl
    · exact Or.inl rfl
  · rintro ⟨digits, hne, hdigits, htext, hvalue⟩
    have hunsigned : unsigned text = digits := by
      rcases htext with rfl | rfl
      · exact unsigned_of_digits hdigits
      · rfl
    rw [hunsigned]
    exact ofDigits_eq_some.2 ⟨hne, hdigits, hvalue⟩

theorem Spells.unique {text : List Char} {m n : Nat} (hm : Spells text m) (hn : Spells text n) :
    m = n := by
  have hm := ofDigits_unsigned.2 hm
  rw [ofDigits_unsigned.2 hn] at hm
  exact (Option.some.inj hm).symm

theorem parse_eq_some {limit n : Nat} {text : List Char} :
    parse limit text = some n ↔ Spells text n ∧ n ≤ limit := by
  rw [← ofDigits_unsigned, parse]
  cases ofDigits (unsigned text) with
  | none => simp
  | some m =>
    by_cases hm : m ≤ limit
    · simp only [if_pos hm, Option.some.injEq]
      constructor
      · rintro rfl
        exact ⟨rfl, hm⟩
      · exact And.left
    · simp only [if_neg hm, Option.some.injEq]
      constructor
      · intro h
        cases h
      · rintro ⟨rfl, hle⟩
        exact absurd hle hm

/-- A count is read from a text that spells it between blanks, if it fits into 64 bits. -/
theorem parseCount_eq_some {text : String} {n : Nat} :
    parseCount text = some n ↔ Spells (Text.trim text.toList) n ∧ n ≤ maxCount :=
  parse_eq_some

theorem parseCount_toString {n : Nat} (h : n ≤ maxCount) : parseCount (toString n) = some n := by
  have hdigits : ∀ c ∈ Nat.toDigits 10 n, c.isDigit = true := fun _ => isDigit_of_mem
  have htrim : Text.trim (Nat.toDigits 10 n) = Nat.toDigits 10 n :=
    Text.trim_of_none fun c hc => isBlank_of_isDigit (hdigits c hc)
  refine parseCount_eq_some.2 ⟨⟨Nat.toDigits 10 n, by simp, hdigits, Or.inl ?_,
    Nat.ofDigitChars_ten_toDigits⟩, h⟩
  rw [Nat.toString_eq_repr, Nat.toList_repr, htrim]

theorem le_of_parseCount {text : String} {n : Nat} (h : parseCount text = some n) : n ≤ maxCount :=
  (parseCount_eq_some.1 h).2

/-- Numbers that are written the same are the same. -/
theorem toString_injective {m n : Nat} (h : toString m = toString n) : m = n := by
  rw [Nat.toString_eq_repr, Nat.toString_eq_repr] at h
  have hdigits := congrArg String.toList h
  rw [Nat.toList_repr, Nat.toList_repr] at hdigits
  rw [← Nat.ofDigitChars_ten_toDigits (n := m), hdigits, Nat.ofDigitChars_ten_toDigits]

/-! ## Numbers of a fixed width -/

theorem toList_padded (width n : Nat) :
    (padded width n).toList =
      List.replicate (width - (Nat.toDigits 10 n).length) '0' ++ Nat.toDigits 10 n := by
  rw [padded, String.toList_ofList]

theorem isDigit_of_mem_padded {width n : Nat} {c : Char} (h : c ∈ (padded width n).toList) :
    c.isDigit = true := by
  rw [toList_padded, List.mem_append] at h
  rcases h with hzero | hdigit
  · rw [List.eq_of_mem_replicate hzero]
    rfl
  · exact isDigit_of_mem hdigit

theorem padded_ne_nil (width n : Nat) : (padded width n).toList ≠ [] := by
  simp [toList_padded]

theorem ofDigits_padded (width n : Nat) : ofDigits (padded width n).toList = some n := by
  refine ofDigits_eq_some.2 ⟨padded_ne_nil width n, fun _ => isDigit_of_mem_padded, ?_⟩
  rw [toList_padded, Nat.ofDigitChars_append, Nat.ofDigitChars_replicate_zero, Nat.mul_zero,
    Nat.ofDigitChars_ten_toDigits]

theorem length_padded {width n : Nat} (hwidth : 0 < width) (h : n < 10 ^ width) :
    (padded width n).toList.length = width := by
  have hlength := (Nat.length_toDigits_le_iff (by decide) hwidth).2 h
  rw [toList_padded, List.length_append, List.length_replicate]
  omega

/-- The number that digits spell is bounded by how many they are. -/
theorem lt_of_ofDigits {digits : List Char} {n : Nat} (h : ofDigits digits = some n) :
    n < 10 ^ digits.length := by
  obtain ⟨-, hdigits, rfl⟩ := ofDigits_eq_some.1 h
  clear h
  induction digits with
  | nil => decide
  | cons c digits ih =>
    obtain ⟨hc, hrest⟩ := List.forall_mem_cons.1 hdigits
    have hc : 48 ≤ c.toNat ∧ c.toNat ≤ 57 := Char.isDigit_iff_toNat.1 hc
    have hzero : '0'.toNat = 48 := rfl
    have hvalue : c.toNat - 48 ≤ 9 := by omega
    have hhigh := Nat.mul_le_mul_left (10 ^ digits.length) hvalue
    have hlow := ih hrest
    rw [Nat.ofDigitChars_cons, Nat.ofDigitChars_eq_ofDigitChars_zero, hzero, Nat.mul_zero,
      Nat.zero_add, List.length_cons, Nat.pow_succ]
    omega

end SignPost.Decimal
