import SignPost.Octets
import Mathlib.Data.List.Induction
import Mathlib.Data.Nat.Digits.Lemmas
import Mathlib.Tactic.Ring

/-!
# Numbers and their octets

A byte string is a number to the base 256, with its first byte the most significant (`toNat_cons`),
and it is given back at its own width (`ofNat_toNat`). The length of a number is that of its digits
(`byteLength_eq`), so it is the least width that holds the number.
-/

namespace SignPost.Octets

/-- A byte string is the number that it spells, at its own width. -/
theorem ofNat_toNat (bytes : Bytes) : ofNat bytes.length (toNat bytes) = bytes := by
  induction bytes using List.reverseRecOn with
  | nil => rfl
  | append_singleton bytes b ih =>
    have hb : b.toNat < 256 := b.toNat_lt
    have hsplit : toNat (bytes ++ [b]) = toNat bytes * 256 + b.toNat := toNatFrom_append 0 bytes [b]
    have hhigh : (toNat bytes * 256 + b.toNat) / 256 = toNat bytes := by omega
    have hlow : (toNat bytes * 256 + b.toNat) % 256 = b.toNat := by omega
    rw [List.length_append, List.length_singleton, ofNat, hsplit, hhigh, hlow, ih,
      UInt8.ofNat_toNat]

theorem toNatFrom_eq (high : Nat) (bytes : Bytes) :
    toNatFrom high bytes = high * 256 ^ bytes.length + toNat bytes := by
  induction bytes generalizing high with
  | nil => simp [toNat, toNatFrom]
  | cons b rest ih =>
    rw [toNatFrom, toNat, toNatFrom, ih, ih (0 * 256 + b.toNat), List.length_cons, Nat.pow_succ]
    ring

theorem toNat_cons (b : UInt8) (rest : Bytes) :
    toNat (b :: rest) = b.toNat * 256 ^ rest.length + toNat rest := by
  rw [toNat, toNatFrom, toNatFrom_eq, Nat.zero_mul, Nat.zero_add]

/-- The length of a number in bytes is the number of its digits to the base 256. -/
theorem byteLength_eq (n : Nat) : byteLength n = (Nat.digits 256 n).length := by
  by_cases hn : n = 0
  · subst hn
    rfl
  · have hlog : Nat.log 256 n = Nat.log 2 n / 8 := Nat.log_pow_left 2 8 n
    rw [Nat.length_digits 256 n (by decide) hn, hlog, byteLength, if_neg hn, Nat.log2_eq_log_two]

theorem lt_byteLength (n : Nat) : n < Nat.pow 256 (byteLength n) := by
  rw [byteLength_eq]
  exact Nat.lt_base_pow_length_digits (by decide)

theorem byteLength_le {n width : Nat} (h : n < 256 ^ width) : byteLength n ≤ width := by
  rw [byteLength_eq]
  exact (Nat.digits_length_le_iff (by decide) n).2 h

theorem one_shiftLeft (width : Nat) : (1 <<< (8 * width) : Nat) = 256 ^ width := by
  rw [Nat.one_shiftLeft, Nat.pow_mul]

end SignPost.Octets
