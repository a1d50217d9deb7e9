import SignPost.Proofs.Rsa.KeyFile
import SignPost.Proofs.Signing.Signer

/-!
# A signer and the validator of its algorithm

`signature_fits_key`: whatever the built-in signer returns is as long as the modulus and valid under
every encoding of the public key that a validator reads. The signer opens its own result before it
returns it, so nothing is assumed about the numbers of the key.
-/

namespace SignPost.Rsa

variable {key : PrivateKey} {identified signature : Bytes}

/-- A signature has the length of the modulus, with zero bytes in front if it needs them. -/
theorem length_of_sign (h : key.sign identified = .ok signature) :
    signature.length = key.publicKey.size := by
  unfold PrivateKey.sign at h
  split at h
  · cases h
  next block _ =>
    dsimp only at h
    split_ifs at h
    rw [← Except.ok.inj h, Octets.length_ofNat]

end SignPost.Rsa

namespace SignPost.Signing

/-- A built-in signer has this key and this algorithm: it was made from the key itself, or from an
armoured text of the key. -/
inductive Signer.Holds (key : Rsa.PrivateKey) (a : Algorithm) : Signer → Prop
  | ofKey (chain : List Bytes) : Signer.Holds key a (Signer.ofKey key chain a)
  | ofPem {chain text : Bytes} {signer : Signer} (hkey : readKey text = some key)
      (hsigner : Signer.ofPem chain text a = .ok signer) : Signer.Holds key a signer

variable {key : Rsa.PrivateKey} {a : Algorithm}

theorem exists_chain_of_ofPem {chain text : Bytes} {signer : Signer}
    (hkey : readKey text = some key) (h : Signer.ofPem chain text a = .ok signer) :
    ∃ certificates, signer = Signer.ofKey key certificates a := by
  unfold Signer.ofPem at h
  split at h
  · cases h
  · cases h
  next certificates _ _ =>
    split at h
    · cases h
    · rw [hkey] at h
      exact ⟨certificates, (Except.ok.inj h).symm⟩

theorem Signer.Holds.exists_chain {signer : Signer} (h : signer.Holds key a) :
    ∃ certificates, signer = Signer.ofKey key certificates a := by
  cases h with
  | ofKey chain => exact ⟨chain, rfl⟩
  | ofPem hkey hsigner => exact exists_chain_of_ofPem hkey hsigner

/-- What a built-in signer returns is as long as the modulus of its key, and valid under every
encoding of the public key that is short enough for a validator. -/
theorem signature_fits_key {signer : Signer} (hsigner : Signer.Holds key a signer)
    {message signature : Bytes} (hsign : signer.sign message = .ok signature) :
    signature.length = (Nat.digits 256 key.publicKey.modulus).length ∧
      ∀ publicKey, Rsa.PublicKey.ofInfo? publicKey = some key.publicKey →
        key.publicKey.usable = true → validate a publicKey message signature = .ok () := by
  obtain ⟨certificates, rfl⟩ := hsigner.exists_chain
  constructor
  · rw [Rsa.length_of_sign (signWithKey_eq_ok.1 hsign), Rsa.PublicKey.size, Octets.byteLength_eq]
  · intro publicKey hread husable
    have hkey : usableKey publicKey = .ok key.publicKey := usableKey_eq_ok.2 ⟨hread, husable⟩
    exact validate_signWithKey hkey hsign

/-- A signature that begins with a zero byte is as long as any other. -/
theorem sample_signature_fits_key :
    ∃ signature,
      (Sample.signer .rs256).sign (Utf8.ofString "document 388") = .ok signature ∧
      signature.head? = some 0 ∧ signature.length = 64 ∧
      validate .rs256 Sample.leaf.publicKey.bytes (Utf8.ofString "document 388") signature =
        .ok () := by
  have hfirst : ((Sample.signer .rs256).sign (Utf8.ofString "document 388")).map List.head? =
      .ok (some 0) := by
    decide +kernel
  cases hsign : (Sample.signer .rs256).sign (Utf8.ofString "document 388") with
  | error e =>
    rw [hsign] at hfirst
    cases hfirst
  | ok signature =>
    rw [hsign] at hfirst
    have hzero : signature.head? = some 0 := Except.ok.inj hfirst
    have hdigits : (Nat.digits 256 Sample.key.publicKey.modulus).length = 64 := by
      rw [← Octets.byteLength_eq]
      decide +kernel
    have hread : Rsa.PublicKey.ofInfo? Sample.leaf.publicKey.bytes = some Sample.key.publicKey := by
      decide +kernel
    obtain ⟨hlength, hvalid⟩ := signature_fits_key (Signer.Holds.ofKey [Sample.der]) hsign
    exact ⟨signature, rfl, hzero, hlength.trans hdigits, hvalid _ hread (by decide +kernel)⟩

end SignPost.Signing
