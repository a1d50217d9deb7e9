import SignPost.Service.Verifier
import SignPost.Proofs.Signing.Validation

/-!
# What a verifier accepts

`verify_some`: a signature is accepted if it is valid for the message and, where one is pinned, its
certificate is the pinned one. `verify_pinned`: with an anchor nothing is accepted unsigned.
`verify_anchored`: an anchor is asked last, and about nothing but the certificate.
`verify_eq_invalid`: where a value was accepted once, it is refused over a message of another
digest, and by every verifier with another algorithm, before any certificate is compared.
-/

namespace SignPost.Service.Verifier

variable {α : Type} [FieldSource α] {source : α} {s : Signature}

/-- The value of the signature is valid for the message, with the algorithm of the verifier. -/
def Covered (v : Verifier) (s : Signature) (message : Bytes) : Prop :=
  Signing.validate v.algorithm s.leaf.publicKey.bytes message s.value = .ok ()

theorem covers_eq_true {v : Verifier} {validator : Signing.Validator} {message : Bytes}
    (h : Signing.Validator.ofAlgorithm? v.algorithm = some validator) :
    covers validator s message = true ↔ v.Covered s message := by
  rw [Covered, Signing.validate_eq h, covers]
  cases validator.validate s.leaf.publicKey.bytes message s.value with
  | error e => simp [Except.isOk, Except.toBool]
  | ok => simp [Except.isOk, Except.toBool]

/-- There is a validator for every algorithm, so what is covered is refused for its certificate
only. -/
theorem verify_of_covered {v : Verifier} (h : v.Covered s (s.signed.canonical source)) :
    v.verify (some s) source =
      if v.trusts s.leaf then .ok () else .error .fingerprintMismatch := by
  obtain ⟨validator, hvalidator, -⟩ := Signing.Validator.exists_ofAlgorithm v.algorithm
  have hcovers := (covers_eq_true hvalidator).2 h
  simp only [verify, hvalidator, hcovers]
  cases v.trusts s.leaf <;> rfl

theorem verify_of_not_covered {v : Verifier} (h : ¬v.Covered s (s.signed.canonical source)) :
    v.verify (some s) source = .error .serviceSignatureInvalid := by
  obtain ⟨validator, hvalidator, -⟩ := Signing.Validator.exists_ofAlgorithm v.algorithm
  have hcovers := mt (covers_eq_true hvalidator).1 h
  simp only [verify, hvalidator, hcovers]
  rfl

theorem verify_some {v : Verifier} :
    v.verify (some s) source = .ok () ↔
      v.Covered s (s.signed.canonical source) ∧ v.trusts s.leaf = true := by
  by_cases hcovered : v.Covered s (s.signed.canonical source)
  · rw [verify_of_covered hcovered]
    cases v.trusts s.leaf <;> simp [hcovered]
  · rw [verify_of_not_covered hcovered]
    simp [hcovered]

variable {anchor : TrustAnchor} {algorithm : Signing.Algorithm}

theorem trusts_pinned {c : Certificate} :
    trusts ⟨some anchor, algorithm⟩ c = true ↔ Hash.Sha1.digest c.der = anchor.fingerprint :=
  decide_eq_true_iff

theorem verify_pinned {signature : Option Signature} :
    verify ⟨some anchor, algorithm⟩ signature source = .ok () ↔
      ∃ s, signature = some s ∧ Hash.Sha1.digest s.leaf.der = anchor.fingerprint ∧
        Signing.validate algorithm s.leaf.publicKey.bytes (s.signed.canonical source) s.value =
          .ok () := by
  constructor
  · intro h
    cases signature with
    | none => cases h
    | some s =>
      obtain ⟨hvalid, htrusts⟩ := verify_some.1 h
      exact ⟨s, rfl, trusts_pinned.1 htrusts, hvalid⟩
  · rintro ⟨s, rfl, hfingerprint, hvalid⟩
    exact verify_some.2 ⟨hvalid, trusts_pinned.2 hfingerprint⟩

/-- What an anchor says to a signature that is accepted without it. -/
def checkAnchor (anchor : TrustAnchor) : Option Signature → Except Error Unit
  | none => .error .serviceSignatureMissing
  | some s => if anchor.isMatch s.leaf.der then .ok () else .error .fingerprintMismatch

theorem verify_anchored (anchor : TrustAnchor) (algorithm : Signing.Algorithm)
    (signature : Option Signature) (source : α) :
    verify ⟨some anchor, algorithm⟩ signature source =
      (verify ⟨none, algorithm⟩ signature source).bind fun _ => checkAnchor anchor signature := by
  cases signature with
  | none => rfl
  | some s =>
    -- what is covered does not depend on the anchor
    by_cases hcovered : Covered ⟨none, algorithm⟩ s (s.signed.canonical source)
    · have hpinned : Covered ⟨some anchor, algorithm⟩ s (s.signed.canonical source) := hcovered
      have hfree : verify ⟨none, algorithm⟩ (some s) source = .ok () :=
        verify_some.2 ⟨hcovered, rfl⟩
      rw [hfree, verify_of_covered hpinned]
      rfl
    · have hpinned : ¬Covered ⟨some anchor, algorithm⟩ s (s.signed.canonical source) := hcovered
      rw [verify_of_not_covered hcovered, verify_of_not_covered hpinned]
      rfl

/-- Without an anchor there is one reason to refuse a signature. -/
theorem verify_unpinned_eq_error {signature : Option Signature} {e : Error}
    (h : verify ⟨none, algorithm⟩ signature source = .error e) : e = .serviceSignatureInvalid := by
  cases signature with
  | none => cases h
  | some s =>
    by_cases hcovered : Covered ⟨none, algorithm⟩ s (s.signed.canonical source)
    · have hvalid : verify ⟨none, algorithm⟩ (some s) source = .ok () :=
        verify_some.2 ⟨hcovered, rfl⟩
      rw [hvalid] at h
      cases h
    · rw [verify_of_not_covered hcovered] at h
      exact (Except.error.inj h).symm

/-- Whatever a verifier reports shows that a response is forged or not from the pinned service. -/
theorem isIntegrityFailure_of_verify {v : Verifier} {signature : Option Signature} {e : Error}
    (h : v.verify signature source = .error e) : e.isIntegrityFailure = true := by
  cases signature with
  | none =>
    unfold verify at h
    dsimp only at h
    split_ifs at h
    cases h
    rfl
  | some s =>
    by_cases hcovered : v.Covered s (s.signed.canonical source)
    · rw [verify_of_covered hcovered] at h
      split_ifs at h
      cases h
      rfl
    · rw [verify_of_not_covered hcovered] at h
      cases h
      rfl

/-- The value of an accepted signature is refused over other fields or other values, as long as the
digest is another one, and over anything by a verifier with another algorithm. -/
theorem verify_eq_invalid {β : Type} [FieldSource β] {v w : Verifier} {list : SignedList}
    {other : β} (h : v.verify (some s) source = .ok ())
    (hne : w.algorithm = v.algorithm →
      v.algorithm.digest (list.canonical other) ≠ v.algorithm.digest (s.signed.canonical source)) :
    w.verify (some { s with signed := list }) other = .error .serviceSignatureInvalid := by
  apply verify_of_not_covered
  intro hother
  obtain ⟨halgorithm, hdigest⟩ := Signing.eq_of_validate (verify_some.1 h).1 hother
  exact hne halgorithm.symm hdigest.symm

end SignPost.Service.Verifier
