import SignPost.Rsa.Key

/-!
# Padded signatures

A signature is the modular power of a padded digest: `00 01 FF … FF 00`, then the digest with the
identification of its hash function. The padding is exact: the validator compares all bytes.
-/

namespace SignPost.Rsa

/-- An identified digest padded to `size` bytes; at least eight filling bytes have to fit. -/
def padded? (size : Nat) (identified : Bytes) : Option Bytes :=
  if size < identified.length + 11 then none
  else some (0 :: 1 :: List.replicate (size - identified.length - 3) 255 ++ 0 :: identified)

theorem length_padded {size : Nat} {identified block : Bytes}
    (h : padded? size identified = some block) : block.length = size := by
  unfold padded? at h
  split at h
  · cases h
  · cases h; simp; omega

/-- The signature opens to the padded digest under the public key. -/
def PublicKey.accepts (key : PublicKey) (identified signature : Bytes) : Bool :=
  signature.length = key.size && Octets.toNat signature < key.modulus &&
    padded? key.size identified =
      some (Octets.ofNat key.size (powMod (Octets.toNat signature) key.exponent key.modulus))

inductive SignError where
  /-- The modulus is too short for the padded digest. -/
  | tooLong
  /-- The public exponent does not undo the private one. -/
  | inconsistentKey
deriving DecidableEq, Repr

def SignError.message : SignError → String
  | .tooLong => "message too long"
  | .inconsistentKey => "internal error"

/-- Signs an identified digest, and checks the result with the public exponent. -/
def PrivateKey.sign (key : PrivateKey) (identified : Bytes) : Except SignError Bytes :=
  match padded? key.publicKey.size identified with
  | none => .error .tooLong
  | some block =>
    let n := key.publicKey.modulus
    let c := Octets.toNat block
    let m := powMod c key.privateExponent n
    if powMod m key.publicKey.exponent n = c then .ok (Octets.ofNat key.publicKey.size m)
    else .error .inconsistentKey

end SignPost.Rsa
