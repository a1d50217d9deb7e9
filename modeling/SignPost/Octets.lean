import SignPost.Text.Hex

/-!
# Numbers as octets

Natural numbers and byte strings, most significant byte first.
-/

namespace SignPost.Octets

/-- The number that a byte string spells after `high`. -/
def toNatFrom (high : Nat) : Bytes → Nat
  | [] => high
  | b :: rest => toNatFrom (high * 256 + b.toNat) rest

def toNat (bytes : Bytes) : Nat :=
  toNatFrom 0 bytes

/-- The lowest `width` bytes of a number. -/
def ofNat : (width n : Nat) → Bytes
  | 0, _ => []
  | width + 1, n => ofNat width (n / 256) ++ [UInt8.ofNat (n % 256)]

@[simp] theorem length_ofNat (width n : Nat) : (ofNat width n).length = width := by
  induction width generalizing n with
  | zero => rfl
  | succ width ih => simp [ofNat, ih]

theorem toNatFrom_append (high : Nat) (a b : Bytes) :
    toNatFrom high (a ++ b) = toNatFrom (toNatFrom high a) b := by
  induction a generalizing high with
  | nil => rfl
  | cons x a ih => simp [toNatFrom, ih]

/-- A number below `256 ^ width` is read back from its `width` bytes. -/
theorem toNat_ofNat {width n : Nat} (h : n < Nat.pow 256 width) : toNat (ofNat width n) = n := by
  induction width generalizing n with
  | zero =>
    have hzero : n = 0 := Nat.lt_one_iff.1 h
    subst hzero
    rfl
  | succ width ih =>
    have hlt : n / 256 < Nat.pow 256 width := (Nat.div_lt_iff_lt_mul (by omega)).2 h
    have := ih hlt
    simp only [toNat] at this
    simp only [toNat, ofNat, toNatFrom_append, this, toNatFrom]
    have : (UInt8.ofNat (n % 256)).toNat = n % 256 := by simp
    rw [this]; omega

def byteLength (n : Nat) : Nat :=
  if n = 0 then 0 else Nat.log2 n / 8 + 1

end SignPost.Octets
