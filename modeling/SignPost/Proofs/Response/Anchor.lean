import SignPost.Proofs.Response.Coverage
import SignPost.Proofs.Response.Order

/-!
# What a trust anchor changes

`anchor_only_filters`: a processor with a trust anchor comes to what the processor without one comes
to, or refuses a response for one of two reasons: it is not signed, or it is signed by another
certificate, and then the signature itself was found valid. Without an anchor neither of the two is
ever reported. No two anchors accept the same response.

Proof. One check asks the verifier (`decision_congr`). So either a check before it decides, for all
verifiers alike, or what a verifier says about the signature is all that processors can differ in
(`process_with_verifier`); and there the anchor comes last (`Service.Verifier.verify_anchored`).
-/

namespace SignPost.Response

open Service

section

variable {expected : Expected} {form : Form}

/-! ## The check that asks the verifier -/

/-- The checks before the verifier is asked. -/
def Check.early : List Check :=
  Check.order.take 10

/-- The checks after the verifier is asked. -/
def Check.late : List Check :=
  Check.order.drop 11

theorem decision_congr {v w : Verifier} {check : Check} (h : check ≠ .signature) :
    check.decision v expected form = check.decision w expected form := by
  cases check with
  | signature => exact absurd rfl h
  | _ => rfl

theorem findSome?_decision_congr {v w : Verifier} {checks : List Check}
    (h : ∀ check ∈ checks, check ≠ .signature) :
    checks.findSome? (Check.decision v expected form) =
      checks.findSome? (Check.decision w expected form) := by
  induction checks with
  | nil => rfl
  | cons check checks ih =>
    obtain ⟨hcheck, hrest⟩ := List.forall_mem_cons.1 h
    rw [List.findSome?_cons, List.findSome?_cons, decision_congr hcheck, ih hrest]

theorem decision_of_refused {v : Verifier} {signature : Option Signature} {e : Error}
    (hread : Signature.ofForm form = .ok signature)
    (h : v.verify signature (expected, form) = .error e) :
    Check.decision v expected form .signature = some (.error e) := by
  simp only [Check.decision, hread, h]

theorem decision_of_verified {v : Verifier} {signature : Option Signature}
    (hread : Signature.ofForm form = .ok signature)
    (h : v.verify signature (expected, form) = .ok ()) :
    Check.decision v expected form .signature = none := by
  simp only [Check.decision, hread, h]

theorem process_eq_or (v : Verifier) (expected : Expected) (form : Form) :
    (Check.early.findSome? (Check.decision v expected form)).or
        ((Check.decision v expected form .signature).or
          (Check.late.findSome? (Check.decision v expected form))) =
      some (Processor.process ⟨v⟩ expected form) := by
  have hprocess := findSome?_order ⟨v⟩ expected form
  have horder : Check.order = Check.early ++ ([.signature] ++ Check.late) := rfl
  rw [horder, List.findSome?_append, List.findSome?_append, List.findSome?_singleton] at hprocess
  exact hprocess

/-- A response that gets to the verifier has a signature that can be read, or none, and a
certificate. -/
theorem exists_signature_of_early {v : Verifier}
    (h : Check.early.findSome? (Check.decision v expected form) = none) :
    ∃ signature certificate, Signature.ofForm form = .ok signature ∧
      form.value? "SignatureCertificate" = some certificate := by
  have hpassed := List.findSome?_eq_none_iff.1 h
  have hreadable := hpassed .signatureReadable (by decide)
  have hpresent := hpassed .certificatePresent (by decide)
  simp only [Check.decision] at hreadable hpresent
  cases hread : Signature.ofForm form with
  | error e =>
    rw [hread] at hreadable
    cases hreadable
  | ok signature =>
    cases hcertificate : form.value? "SignatureCertificate" with
    | none => exact absurd hcertificate (by simpa using hpresent)
    | some certificate => exact ⟨signature, certificate, rfl, rfl⟩

/-- What processors can differ in: nothing, or what their verifiers say about the signature. -/
theorem process_with_verifier (expected : Expected) (form : Form) :
    (∃ result, ∀ v, Processor.process ⟨v⟩ expected form = result) ∨
      ∃ signature certificate, Signature.ofForm form = .ok signature ∧
        form.value? "SignatureCertificate" = some certificate ∧
        (∀ v e, v.verify signature (expected, form) = .error e →
          Processor.process ⟨v⟩ expected form = .error e) ∧
        ∀ v w, v.verify signature (expected, form) = .ok () →
          w.verify signature (expected, form) = .ok () →
          Processor.process ⟨v⟩ expected form = Processor.process ⟨w⟩ expected form := by
  have hearly (v : Verifier) : Check.early.findSome? (Check.decision v expected form) =
      Check.early.findSome? (Check.decision default expected form) :=
    findSome?_decision_congr (by decide)
  have hlate (v w : Verifier) : Check.late.findSome? (Check.decision v expected form) =
      Check.late.findSome? (Check.decision w expected form) :=
    findSome?_decision_congr (by decide)
  cases hdecided : Check.early.findSome? (Check.decision default expected form) with
  | some result =>
    refine Or.inl ⟨result, fun v => ?_⟩
    have hprocess := process_eq_or v expected form
    rw [hearly, hdecided] at hprocess
    exact (Option.some.inj hprocess).symm
  | none =>
    obtain ⟨signature, certificate, hread, hcertificate⟩ := exists_signature_of_early hdecided
    refine Or.inr ⟨signature, certificate, hread, hcertificate, ?_, ?_⟩
    · intro v e hv
      have hprocess := process_eq_or v expected form
      rw [hearly, hdecided, decision_of_refused hread hv] at hprocess
      exact (Option.some.inj hprocess).symm
    · intro v w hv hw
      have hprocess := process_eq_or v expected form
      have hother := process_eq_or w expected form
      rw [hearly, hdecided, decision_of_verified hread hv, hlate v w] at hprocess
      rw [hearly, hdecided, decision_of_verified hread hw] at hother
      exact Option.some.inj (hprocess.symm.trans hother)

/-! ## With and without an anchor -/

/-- The two refusals that only an anchor makes. -/
def Anchored (e : Error) : Prop :=
  e = .serviceSignatureMissing ∨ e = .fingerprintMismatch

theorem not_anchored_of_decision {algorithm : Signing.Algorithm} {check : Check} {e : Error}
    (h : check.decision ⟨none, algorithm⟩ expected form = some (.error e)) : ¬ Anchored e := by
  cases check with
  | signatureReadable =>
    simp only [Check.decision] at h
    split at h
    next e' hread =>
      obtain ⟨fault, rfl⟩ := Signature.ofForm_eq_error hread
      cases h
      simp [Anchored]
    next => cases h
  | signature =>
    simp only [Check.decision] at h
    split at h
    next s hread =>
      split at h
      next e' hverify =>
        obtain rfl := Verifier.verify_unpinned_eq_error hverify
        cases h
        simp [Anchored]
      next => cases h
    next => cases h
  | _ =>
    simp only [Check.decision] at h
    grind [Anchored]

/-- Without an anchor neither refusal is made. -/
theorem process_unpinned_ne {algorithm : Signing.Algorithm} {e : Error} (he : Anchored e) :
    Processor.process ⟨⟨none, algorithm⟩⟩ expected form ≠ .error e := by
  intro hprocess
  have hdecided := findSome?_order ⟨⟨none, algorithm⟩⟩ expected form
  rw [hprocess] at hdecided
  obtain ⟨check, -, hcheck⟩ := List.exists_of_findSome?_eq_some hdecided
  exact not_anchored_of_decision hcheck he

/-- No two anchors accept the same response. -/
theorem anchor_eq_of_process {a b : TrustAnchor} {algorithm : Signing.Algorithm}
    {result result' : Result} {c c' : Certificate}
    (ha : Processor.process ⟨⟨some a, algorithm⟩⟩ expected form = .ok (.signed result c))
    (hb : Processor.process ⟨⟨some b, algorithm⟩⟩ expected form = .ok (.signed result' c')) :
    a = b := by
  obtain ⟨-, -, -, -, -, s, hs⟩ := process_pinned.1 ha
  obtain ⟨-, -, -, -, -, s', hs'⟩ := process_pinned.1 hb
  obtain rfl := hs.spelled.unique hs'.spelled
  have hfingerprint : a.fingerprint = b.fingerprint := hs.pinned.symm.trans hs'.pinned
  cases a
  cases b
  cases hfingerprint
  rfl

end

/-- With an anchor a response comes to what it comes to without one, unless it is not signed, or the
certificate of its signature, valid as this is, is not the pinned one. The two refusals are made
only by an anchor. Anchors that accept the same response are the same. -/
theorem anchor_only_filters (algorithm : Signing.Algorithm) (expected : Expected) (form : Form) :
    (∀ anchor : TrustAnchor,
      Processor.process ⟨⟨some anchor, algorithm⟩⟩ expected form =
          Processor.process ⟨⟨none, algorithm⟩⟩ expected form ∨
        (Processor.process ⟨⟨some anchor, algorithm⟩⟩ expected form =
            .error .serviceSignatureMissing ∧
          form.value? "ServiceSigned" = none) ∨
        (Processor.process ⟨⟨some anchor, algorithm⟩⟩ expected form = .error .fingerprintMismatch ∧
          ∃ s certificate, Signature.ofForm form = .ok (some s) ∧
            form.value? "SignatureCertificate" = some certificate ∧
            Verifier.verify ⟨none, algorithm⟩ (some s)
                (signedValues expected form (some certificate)) = .ok () ∧
            Hash.Sha1.digest s.leaf.der ≠ anchor.fingerprint)) ∧
    Processor.process ⟨⟨none, algorithm⟩⟩ expected form ≠ .error .serviceSignatureMissing ∧
    Processor.process ⟨⟨none, algorithm⟩⟩ expected form ≠ .error .fingerprintMismatch ∧
    ∀ a b result result' c c',
      Processor.process ⟨⟨some a, algorithm⟩⟩ expected form = .ok (.signed result c) →
      Processor.process ⟨⟨some b, algorithm⟩⟩ expected form = .ok (.signed result' c') → a = b := by
  refine ⟨fun anchor => ?_, process_unpinned_ne (.inl rfl), process_unpinned_ne (.inr rfl),
    fun a b result result' c c' => anchor_eq_of_process⟩
  rcases process_with_verifier expected form with
    ⟨result, hresult⟩ | ⟨signature, certificate, hread, hcertificate, hrefused, hverified⟩
  · exact Or.inl ((hresult _).trans (hresult _).symm)
  have hanchored := Verifier.verify_anchored anchor algorithm signature (expected, form)
  cases hfree : Verifier.verify ⟨none, algorithm⟩ signature (expected, form) with
  | error e =>
    rw [hfree] at hanchored
    exact Or.inl ((hrefused _ e hanchored).trans (hrefused _ e hfree).symm)
  | ok =>
    rw [hfree] at hanchored
    cases signature with
    | none =>
      exact Or.inr (Or.inl ⟨hrefused _ _ hanchored, Signature.ofForm_eq_none.1 hread⟩)
    | some s =>
      by_cases hmatch : anchor.isMatch s.leaf.der = true
      · rw [Except.bind, Verifier.checkAnchor, if_pos hmatch] at hanchored
        exact Or.inl (hverified _ _ hanchored hfree)
      · rw [Except.bind, Verifier.checkAnchor, if_neg hmatch] at hanchored
        refine Or.inr (Or.inr ⟨hrefused _ _ hanchored, s, certificate, hread, hcertificate, ?_, ?_⟩)
        · rw [verify_signedValues (some s) hcertificate, hfree]
        · exact fun hdigest => hmatch (decide_eq_true hdigest)

/-- The anchor that is written as the fingerprint of the sample certificate accepts what the anchor
of the certificate accepts, and so is the same. Another anchor rejects it for its fingerprint. -/
theorem sample_anchor_filters :
    let printed : TrustAnchor :=
      ⟨[0xf3, 0x3e, 0xac, 0x61, 0xe7, 0x56, 0x4e, 0xb5, 0xb0, 0x1e, 0xc3, 0x6f, 0xe4, 0x1a, 0xf4,
        0xe9, 0x6f, 0x2d, 0xe5, 0xa6], rfl⟩
    ∃ form,
      Processor.process ⟨⟨some (TrustAnchor.ofCertificate Signing.Sample.leaf), .rs1⟩⟩
        (Expected.ofRequest Request.sample) form =
          .ok (.signed (.document [0x68, 0x69]) Signing.Sample.leaf) ∧
      Processor.process ⟨⟨some printed, .rs1⟩⟩ (Expected.ofRequest Request.sample) form =
          .ok (.signed (.document [0x68, 0x69]) Signing.Sample.leaf) ∧
      TrustAnchor.ofCertificate Signing.Sample.leaf = printed ∧
      Processor.process ⟨⟨some ⟨List.replicate 20 0, rfl⟩, .rs1⟩⟩
        (Expected.ofRequest Request.sample) form = .error .fingerprintMismatch := by
  intro printed
  have hbytes : (TrustAnchor.ofCertificate Signing.Sample.leaf).fingerprint =
      printed.fingerprint := by
    decide +kernel
  obtain ⟨form, hlist, haccepted⟩ := exists_accepted "SignatureResponse" (by decide +kernel)
  -- the certificate is not to be read again wherever it is compared
  generalize Signing.Sample.leaf = leaf at hbytes haccepted ⊢
  obtain ⟨hfilters, -, -, hunique⟩ :=
    anchor_only_filters .rs1 (Expected.ofRequest Request.sample) form
  have hprinted :
      Processor.process ⟨⟨some printed, .rs1⟩⟩ (Expected.ofRequest Request.sample) form =
        .ok (.signed (.document [0x68, 0x69]) leaf) := by
    obtain ⟨hstatus, hresult, hc, hrelay, hcontext, s, hs⟩ := process_pinned.1 haccepted
    have hvouched : Vouched printed .rs1 (Expected.ofRequest Request.sample) form s :=
      ⟨hs.spelled, hs.pinned.trans hbytes, hs.valid⟩
    exact process_pinned.2 ⟨hstatus, hresult, hc, hrelay, hcontext, s, hvouched⟩
  refine ⟨form, haccepted, hprinted, hunique _ _ _ _ _ _ haccepted hprinted, ?_⟩
  have hsigned : form.value? "ServiceSigned" ≠ none := by
    intro hnone
    rw [hnone] at hlist
    cases hlist
  have hunpinned : Processor.process ⟨⟨none, .rs1⟩⟩ (Expected.ofRequest Request.sample) form =
      .ok (.signed (.document [0x68, 0x69]) leaf) := by
    rcases hfilters printed with hsame | ⟨hmissing, -⟩ | ⟨hmismatch, -⟩
    · rw [← hsame, hprinted]
    · rw [hprinted] at hmissing
      cases hmissing
    · rw [hprinted] at hmismatch
      cases hmismatch
  rcases hfilters ⟨List.replicate 20 0, rfl⟩ with hsame | ⟨-, hnone⟩ | ⟨hmismatch, -⟩
  · rw [hunpinned] at hsame
    exact absurd (hunique _ _ _ _ _ _ hsame hprinted) (by decide)
  · exact absurd hnone hsigned
  · exact hmismatch

end SignPost.Response
