import SignPost.Proofs.Response.Coverage

/-!
# One value, one algorithm, one digest

`value_is_exclusive`: the value of a signature vouches, under one key, for one algorithm and one
digest. So where a verifier accepts a value it refuses it beside any list and values of another
digest, and a response that is accepted with one algorithm is rejected with each of the others, as
one whose signature is invalid.

Proof. The padded block that a value opens to shows the algorithm and the digest (`eq_of_validate`).
A verifier looks at the certificate only after the signature (`verify_eq_invalid`), and what a
response is checked for before its signature does not depend on the algorithm
(`process_with_algorithm`).
-/

namespace SignPost.Response

open Service Signing

variable {anchor : Option TrustAnchor} {a b : Algorithm} {expected : Expected} {form : Form}
  {certificate : String} {result : Result} {c : Certificate}

/-- A signed form that passes with one algorithm fails with another, at its signature. -/
theorem checkSignature_with_algorithm {list : String}
    (hlist : form.value? Field.serviceSigned = some list) (hab : a ≠ b)
    (h : checkSignature ⟨anchor, a⟩ expected form certificate = .ok ()) :
    checkSignature ⟨anchor, b⟩ expected form certificate = .error .serviceSignatureInvalid := by
  unfold checkSignature at h ⊢
  cases hread : Signature.ofForm form with
  | error e =>
    rw [hread] at h
    cases h
  | ok signature =>
    cases signature with
    | none =>
      rw [Signature.ofForm_eq_none.1 hread] at hlist
      cases hlist
    | some s =>
      rw [hread] at h
      dsimp only at h ⊢
      cases hcontext : checkContext expected with
      | error e =>
        rw [hcontext] at h
        cases h
      | ok =>
        rw [hcontext] at h
        exact Verifier.verify_eq_invalid h fun heq => absurd heq.symm hab

theorem process_with_algorithm {list : String}
    (hlist : form.value? Field.serviceSigned = some list) (hab : a ≠ b)
    (h : Processor.process ⟨⟨anchor, a⟩⟩ expected form = .ok (.signed result c)) :
    Processor.process ⟨⟨anchor, b⟩⟩ expected form = .error .serviceSignatureInvalid := by
  obtain ⟨hstatus, ⟨payload, hpayload, -⟩, hrelay, certificate, hcertificate, -, hsignature⟩ :=
    process_eq_signed.1 h
  rw [process_of_relayState hstatus hpayload hcertificate hrelay,
    checkSignature_with_algorithm hlist hab hsignature]

/-- A value is accepted under one key with one algorithm and for one digest. A verifier that
accepts it as the value of a signature refuses it beside every list, that of the signature or
another, and all values that make another digest. A processor that accepts a signed response
rejects it when it is set to another algorithm. -/
theorem value_is_exclusive :
    (∀ (a b : Algorithm) (publicKey x y value : Bytes),
      validate a publicKey x value = .ok () → validate b publicKey y value = .ok () →
        a = b ∧ a.digest x = a.digest y) ∧
    (∀ (v : Verifier) (s : Signature) (list : SignedList) (values values' : SignedValues),
      v.verify (some s) values = .ok () →
        v.algorithm.digest (list.canonical values') ≠
          v.algorithm.digest (s.signed.canonical values) →
        v.verify (some { s with signed := list }) values' = .error .serviceSignatureInvalid) ∧
    (∀ (anchor : Option TrustAnchor) (a b : Algorithm) (expected : Expected) (form : Form)
      (list : String) (result : Result) (c : Certificate),
      form.value? "ServiceSigned" = some list → a ≠ b →
        Processor.process ⟨⟨anchor, a⟩⟩ expected form = .ok (.signed result c) →
        Processor.process ⟨⟨anchor, b⟩⟩ expected form = .error .serviceSignatureInvalid) := by
  refine ⟨?_, ?_, ?_⟩
  · intro a b publicKey x y value hx hy
    exact eq_of_validate hx hy
  · intro v s list values values' h hne
    exact Verifier.verify_eq_invalid h fun _ => hne
  · intro anchor a b expected form list result c hlist hab h
    exact process_with_algorithm hlist hab h

/-- A signature over the target of the sample request is refused for another target, and beside a
list that names the language. A response that is accepted with SHA-1 is rejected with SHA-256. -/
theorem sample_value_is_exclusive :
    (∃ s : Signature,
      Verifier.verify ⟨some (TrustAnchor.ofCertificate Sample.leaf), .rs1⟩ (some s)
        Request.sample.signedValues = .ok () ∧
      Verifier.verify ⟨some (TrustAnchor.ofCertificate Sample.leaf), .rs1⟩ (some s)
        { Request.sample.signedValues with target := some "https://sp.example/other" } =
          .error .serviceSignatureInvalid ∧
      Verifier.verify ⟨some (TrustAnchor.ofCertificate Sample.leaf), .rs1⟩
        (some { s with signed := ⟨["language"]⟩ }) Request.sample.signedValues =
          .error .serviceSignatureInvalid ∧
      ∀ b y, validate b s.leaf.publicKey.bytes y s.value = .ok () → .rs1 = b) ∧
    ∃ form,
      Processor.process ⟨⟨some (TrustAnchor.ofCertificate Sample.leaf), .rs1⟩⟩
        (Expected.ofRequest Request.sample) form =
          .ok (.signed (.document [0x68, 0x69]) Sample.leaf) ∧
      Processor.process ⟨⟨some (TrustAnchor.ofCertificate Sample.leaf), .rs256⟩⟩
        (Expected.ofRequest Request.sample) form = .error .serviceSignatureInvalid := by
  obtain ⟨hvalue, hverify, hprocess⟩ := value_is_exclusive
  constructor
  · have hsigns : ((Sample.signer .rs1).sign
        (canonicalBytes ["target"] Request.sample.signedValues)).isOk = true := by decide +kernel
    obtain ⟨value, hsign⟩ := Sample.exists_signature hsigns
    have htarget : Algorithm.digest .rs1 (canonicalBytes ["target"]
          { Request.sample.signedValues with target := some "https://sp.example/other" }) ≠
        Algorithm.digest .rs1 (canonicalBytes ["target"] Request.sample.signedValues) := by
      decide +kernel
    have hlist : Algorithm.digest .rs1 (canonicalBytes ["language"] Request.sample.signedValues) ≠
        Algorithm.digest .rs1 (canonicalBytes ["target"] Request.sample.signedValues) := by
      decide +kernel
    have hpresents := Sample.presents .rs1
    -- the certificate is not to be read again wherever it is compared
    generalize Sample.leaf = leaf at hpresents ⊢
    have haccepted : Verifier.verify ⟨some (TrustAnchor.ofCertificate leaf), .rs1⟩
        (some ⟨⟨["target"]⟩, value, leaf, []⟩) Request.sample.signedValues = .ok () :=
      hpresents.verify hsign
    refine ⟨⟨⟨["target"]⟩, value, leaf, []⟩, haccepted, ?_, ?_, fun b y hy => ?_⟩
    · exact hverify _ ⟨⟨["target"]⟩, value, leaf, []⟩ ⟨["target"]⟩ _ _ haccepted htarget
    · exact hverify _ ⟨⟨["target"]⟩, value, leaf, []⟩ ⟨["language"]⟩ _ _ haccepted hlist
    · exact (hvalue .rs1 b _ _ y value (hpresents.valid _ _ hsign) hy).1
  · obtain ⟨form, hlist, haccepted⟩ := exists_accepted "SignatureResponse" (by decide +kernel)
    have hother : Algorithm.rs1 ≠ .rs256 := by decide
    exact ⟨form, haccepted, hprocess _ .rs1 .rs256 _ form _ _ _ hlist hother haccepted⟩

end SignPost.Response
