import SignPost.Octets

/-!
# RSA keys

The numbers of a key, the conditions under which they are taken as a key, and modular powers by
squaring. Key sizes are not limited here; a public key of a validator is (`PublicKey.usable`).
-/

namespace SignPost.Rsa

/-- `base ^ exponent % modulus`, by squaring. -/
def powMod (base exponent modulus : Nat) : Nat :=
  if exponent = 0 then 1 % modulus
  else
    let square := powMod (base * base % modulus) (exponent / 2) modulus
    if exponent % 2 = 1 then square * base % modulus else square
termination_by exponent

theorem powMod_eq (base exponent modulus : Nat) :
    powMod base exponent modulus = Nat.pow base exponent % modulus := by
  change powMod base exponent modulus = base ^ exponent % modulus
  induction exponent using Nat.strongRecOn generalizing base with
  | ind e ih =>
    rw [powMod]
    by_cases h : e = 0
    · simp [h]
    · have hlt : e / 2 < e := by omega
      simp only [h, if_false, ih _ hlt, ← Nat.pow_mod]
      rw [← Nat.pow_two, ← Nat.pow_mul]
      by_cases ho : e % 2 = 1
      · simp only [ho, if_true, Nat.mod_mul_mod]
        rw [← Nat.pow_succ, show (2 * (e / 2)).succ = e by omega]
      · simp only [ho, if_false]
        rw [show 2 * (e / 2) = e by omega]

structure PublicKey where
  modulus : Nat
  exponent : Nat
deriving DecidableEq, Repr

/-- The length of the modulus in bytes, and so of every signature. -/
def PublicKey.size (key : PublicKey) : Nat :=
  Octets.byteLength key.modulus

/-- The numbers form a key: both are odd, and the exponent is at least two, below `2 ^ 33` and
below the modulus. -/
def PublicKey.wellFormed (key : PublicKey) : Bool :=
  key.modulus % 2 = 1 && key.exponent % 2 = 1 && 2 ≤ key.exponent &&
    key.exponent < 1 <<< 33 && key.exponent < key.modulus

/-- A key that signatures are checked with has at most 4096 bits. -/
def PublicKey.usable (key : PublicKey) : Bool :=
  key.wellFormed && key.modulus < 1 <<< 4096

structure PrivateKey where
  publicKey : PublicKey
  privateExponent : Nat
  firstPrime : Nat
  secondPrime : Nat
deriving DecidableEq, Repr

/-- The numbers form a key pair: the primes give the modulus, and the two exponents are inverse
to each other modulo each prime less one. -/
def PrivateKey.wellFormed (key : PrivateKey) : Bool :=
  let product := key.publicKey.exponent * key.privateExponent
  key.publicKey.wellFormed &&
    key.firstPrime * key.secondPrime = key.publicKey.modulus &&
    1 ≤ product && (product - 1) % (key.firstPrime - 1) = 0 &&
    (product - 1) % (key.secondPrime - 1) = 0

end SignPost.Rsa
