import SignPost.Response.Processor
import SignPost.Proofs.Service.Signature
import SignPost.Proofs.Service.Verifier

/-!
# When a response is accepted

A run of the checks is unfolded once, state by state from the last one (`run_signatureVerified` up
to `run_start`); what follows about responses uses these equations and not the steps. From them
`process_eq_signed`: the processor returns a result and a certificate if and only if these are what
the form holds (`HasResult`, `HasCertificate`), the status is that of a signed response, the relay
state is the remembered one and the service signature is verified.
-/

namespace SignPost.Response

variable {verifier : Service.Verifier} {expected : Expected} {form : Form}

/-! ## Runs, state by state -/

theorem run_eq_match (v : Validation) :
    run verifier expected form v =
      match step verifier expected form v with
      | .last _ result => result
      | .next next => run verifier expected form next := by
  rw [run]
  split
  next h => rw [h]
  next h => rw [h]

section

variable (payload : Option Payload) (certificate : Option String)

theorem run_signatureVerified :
    run verifier expected form ⟨.signatureVerified, payload, certificate⟩ =
      extract payload certificate := by
  rw [run_eq_match, step, check]
  cases extract payload certificate with
  | error e => rfl
  | ok outcome => rfl

theorem run_relayStateChecked :
    run verifier expected form ⟨.relayStateChecked, payload, certificate⟩ =
      match checkSignature verifier expected form certificate with
      | .error e => .error e
      | .ok () => extract payload certificate := by
  rw [run_eq_match, step, check]
  dsimp only
  cases checkSignature verifier expected form certificate with
  | error e => rfl
  | ok => exact run_signatureVerified payload certificate

theorem run_presenceChecked :
    run verifier expected form ⟨.presenceChecked, payload, certificate⟩ =
      if relayStateMatches expected form then
        run verifier expected form ⟨.relayStateChecked, payload, certificate⟩
      else .error .relayStateMismatch := by
  rw [run_eq_match, step, check]
  dsimp only
  split_ifs <;> rfl

/-- What a record held before makes no difference when payload and certificate are looked for. -/
theorem run_statusChecked {found : Payload} (h : HasPayload form found) :
    run verifier expected form ⟨.statusChecked, payload, certificate⟩ =
      match form.value? SignableField.signatureCertificate.name with
      | none => .error .missingCertificate
      | some text => run verifier expected form ⟨.presenceChecked, some found, some text⟩ := by
  rw [run_eq_match, step, check]
  dsimp only
  rw [checkPresence]
  cases h with
  | document htext hid =>
    rw [htext, hid]
    dsimp only
    rw [checkCertificate]
    cases form.value? SignableField.signatureCertificate.name with
    | none => rfl
    | some text => rfl
  | artifact htext hid =>
    rw [htext, hid]
    dsimp only
    rw [checkCertificate]
    cases form.value? SignableField.signatureCertificate.name with
    | none => rfl
    | some text => rfl

theorem run_statusChecked_of_both {text id : String}
    (htext : form.value? SignableField.signatureResponse.name = some text)
    (hid : form.value? SignableField.signatureResponseId.name = some id) :
    run verifier expected form ⟨.statusChecked, payload, certificate⟩ =
      .error .ambiguousPayload := by
  rw [run_eq_match, step, check]
  dsimp only
  rw [checkPresence, htext, hid]

theorem run_statusChecked_of_neither
    (htext : form.value? SignableField.signatureResponse.name = none)
    (hid : form.value? SignableField.signatureResponseId.name = none) :
    run verifier expected form ⟨.statusChecked, payload, certificate⟩ = .error .missingPayload := by
  rw [run_eq_match, step, check]
  dsimp only
  rw [checkPresence, htext, hid]

/-- Without a payload, or with two, there is no outcome. -/
theorem exists_payload_of_run {outcome : Outcome}
    (h : run verifier expected form ⟨.statusChecked, payload, certificate⟩ = .ok outcome) :
    ∃ payload, HasPayload form payload := by
  cases htext : form.value? SignableField.signatureResponse.name with
  | none =>
    cases hid : form.value? SignableField.signatureResponseId.name with
    | none =>
      rw [run_statusChecked_of_neither _ _ htext hid] at h
      cases h
    | some id => exact ⟨_, .artifact htext hid⟩
  | some text =>
    cases hid : form.value? SignableField.signatureResponseId.name with
    | none => exact ⟨_, .document htext hid⟩
    | some id =>
      rw [run_statusChecked_of_both _ _ htext hid] at h
      cases h

theorem run_start :
    run verifier expected form ⟨.start, payload, certificate⟩ =
      match form.value? Field.status with
      | none => .error .missingStatus
      | some status =>
        if status = statusOk then
          run verifier expected form ⟨.statusChecked, payload, certificate⟩
        else if status = statusCancelled then .ok .cancelled
        else .error (.invalidStatus status) := by
  rw [run_eq_match, step, check]
  dsimp only
  rw [checkStatus]
  cases form.value? Field.status with
  | none => rfl
  | some status =>
    dsimp only
    split_ifs <;> rfl

end

/-! ## What is returned -/

/-- The result that the payload of a form stands for. -/
def HasResult (form : Form) (result : Result) : Prop :=
  ∃ payload, HasPayload form payload ∧ readPayload payload = .ok result

theorem hasResult_document {content : Bytes} :
    HasResult form (.document content) ↔
      form.value? SignableField.signatureResponseId.name = none ∧
        ∃ text, form.value? SignableField.signatureResponse.name = some text ∧
          Base64.decodeForm text = .ok content := by
  constructor
  · rintro ⟨payload, hpayload, hread⟩
    cases hpayload with
    | document htext hid =>
      simp only [readPayload] at hread
      split at hread
      next hcontent =>
        cases hread
        exact ⟨hid, _, htext, hcontent⟩
      next => cases hread
    | artifact htext hid => cases hread
  · rintro ⟨hid, text, htext, hcontent⟩
    refine ⟨.document text, .document htext hid, ?_⟩
    rw [readPayload, hcontent]

theorem hasResult_artifact {id : String} :
    HasResult form (.artifact id) ↔
      form.value? SignableField.signatureResponse.name = none ∧
        form.value? SignableField.signatureResponseId.name = some id := by
  constructor
  · rintro ⟨payload, hpayload, hread⟩
    cases hpayload with
    | document htext hid =>
      simp only [readPayload] at hread
      split at hread <;> cases hread
    | artifact htext hid =>
      cases hread
      exact ⟨htext, hid⟩
  · rintro ⟨htext, hid⟩
    exact ⟨.artifact id, .artifact htext hid, rfl⟩

/-- The certificate that a form gives as the signer's. -/
def HasCertificate (form : Form) (c : Certificate) : Prop :=
  ∃ text, form.value? SignableField.signatureCertificate.name = some text ∧
    Certificate.ofBase64 text = .ok c

theorem extract_eq_signed {payload : Payload} {certificate : String} {result : Result}
    {c : Certificate} :
    extract (some payload) (some certificate) = .ok (.signed result c) ↔
      readPayload payload = .ok result ∧ Certificate.ofBase64 certificate = .ok c := by
  unfold extract
  dsimp only
  cases Certificate.ofBase64 certificate with
  | error e => simp
  | ok c' =>
    cases readPayload payload with
    | error e => simp
    | ok result' => simp

theorem run_presenceChecked_eq_ok {payload : Option Payload} {certificate : Option String}
    {outcome : Outcome} :
    run verifier expected form ⟨.presenceChecked, payload, certificate⟩ = .ok outcome ↔
      relayStateMatches expected form = true ∧
        checkSignature verifier expected form certificate = .ok () ∧
          extract payload certificate = .ok outcome := by
  rw [run_presenceChecked, run_relayStateChecked]
  split_ifs with hrelay
  · cases checkSignature verifier expected form certificate with
    | error e => simp [hrelay]
    | ok => simp [hrelay]
  · simp [hrelay]

theorem run_statusChecked_eq_ok {p : Option Payload} {c : Option String} {outcome : Outcome} :
    run verifier expected form ⟨.statusChecked, p, c⟩ = .ok outcome ↔
      ∃ payload certificate, HasPayload form payload ∧
        form.value? SignableField.signatureCertificate.name = some certificate ∧
          run verifier expected form ⟨.presenceChecked, some payload, some certificate⟩ =
            .ok outcome := by
  constructor
  · intro h
    obtain ⟨payload, hpayload⟩ := exists_payload_of_run p c h
    rw [run_statusChecked p c hpayload] at h
    split at h
    · cases h
    next certificate hcertificate => exact ⟨payload, certificate, hpayload, hcertificate, h⟩
  · rintro ⟨payload, certificate, hpayload, hcertificate, h⟩
    rw [run_statusChecked p c hpayload, hcertificate]
    exact h

/-- A response is accepted if and only if all checks succeed, and what is returned is what the form
holds. -/
theorem process_eq_signed {p : Processor} {result : Result} {c : Certificate} :
    p.process expected form = .ok (.signed result c) ↔
      form.value? Field.status = some statusOk ∧ HasResult form result ∧
        relayStateMatches expected form = true ∧
          ∃ certificate, form.value? SignableField.signatureCertificate.name = some certificate ∧
            Certificate.ofBase64 certificate = .ok c ∧
              checkSignature p.verifier expected form (some certificate) = .ok () := by
  unfold Processor.process
  rw [run_start]
  constructor
  · intro h
    split at h
    · cases h
    next status hstatus =>
      split_ifs at h with hok hcancelled
      · obtain ⟨payload, certificate, hpayload, hcertificate, h⟩ := run_statusChecked_eq_ok.1 h
        obtain ⟨hrelay, hsignature, h⟩ := run_presenceChecked_eq_ok.1 h
        obtain ⟨hresult, hread⟩ := extract_eq_signed.1 h
        exact ⟨by rw [hstatus, hok], ⟨payload, hpayload, hresult⟩, hrelay, certificate,
          hcertificate, hread, hsignature⟩
      · cases h
  · rintro ⟨hstatus, ⟨payload, hpayload, hresult⟩, hrelay, certificate, hcertificate, hread,
      hsignature⟩
    rw [hstatus]
    dsimp only
    rw [if_pos rfl]
    refine run_statusChecked_eq_ok.2 ⟨payload, certificate, hpayload, hcertificate, ?_⟩
    refine run_presenceChecked_eq_ok.2 ⟨hrelay, hsignature, ?_⟩
    exact extract_eq_signed.2 ⟨hresult, hread⟩

theorem extract_ne_cancelled {payload : Option Payload} {certificate : Option String} :
    extract payload certificate ≠ .ok .cancelled := by
  unfold extract
  intro h
  split at h
  · cases h
  · split at h
    · cases h
    · split at h
      · cases h
      · split at h <;> cases h

/-- The news that the user declined comes from the status alone. -/
theorem process_eq_cancelled {p : Processor} :
    p.process expected form = .ok .cancelled ↔
      form.value? Field.status = some statusCancelled := by
  unfold Processor.process
  rw [run_start]
  constructor
  · intro h
    split at h
    · cases h
    next status hstatus =>
      split_ifs at h with hok hcancelled
      · obtain ⟨payload, certificate, -, -, h⟩ := run_statusChecked_eq_ok.1 h
        obtain ⟨-, -, h⟩ := run_presenceChecked_eq_ok.1 h
        exact absurd h extract_ne_cancelled
      · rw [hstatus, hcancelled]
  · intro hstatus
    have hne : statusCancelled ≠ statusOk := by decide
    rw [hstatus]
    dsimp only
    rw [if_neg hne, if_pos rfl]

/-- A response that is complete and answers the request that is remembered comes to what its
signature and its content come to. -/
theorem process_of_relayState {p : Processor} {payload : Payload} {certificate : String}
    (hstatus : form.value? Field.status = some statusOk) (hpayload : HasPayload form payload)
    (hcertificate : form.value? SignableField.signatureCertificate.name = some certificate)
    (hrelay : relayStateMatches expected form = true) :
    p.process expected form =
      match checkSignature p.verifier expected form (some certificate) with
      | .error e => .error e
      | .ok () => extract (some payload) (some certificate) := by
  unfold Processor.process
  rw [run_start, hstatus]
  dsimp only
  rw [if_pos rfl, run_statusChecked _ _ hpayload, hcertificate]
  dsimp only
  rw [run_presenceChecked, if_pos hrelay, run_relayStateChecked]

/-! ## What is verified -/

theorem checkContext_eq_ok :
    checkContext expected = .ok () ↔
      expected.target.isSome = true ∧
        (expected.document.isSome = true ∨ expected.artifact.isSome = true) := by
  unfold checkContext
  cases expected.target with
  | none => simp
  | some target =>
    cases expected.document with
    | none => cases expected.artifact <;> simp
    | some document => simp

/-- With an anchor, a response needs a signature whose certificate is pinned and that covers what
is known of the request and given in the response. -/
theorem checkSignature_eq_ok {anchor : TrustAnchor} {algorithm : Signing.Algorithm}
    {certificate : Option String} :
    checkSignature ⟨some anchor, algorithm⟩ expected form certificate = .ok () ↔
      checkContext expected = .ok () ∧
        ∃ s, Service.Signature.Spelled form s ∧ Hash.Sha1.digest s.leaf.der = anchor.fingerprint ∧
          Signing.validate algorithm s.leaf.publicKey.bytes
            (s.signed.canonical (signedValues expected form certificate)) s.value = .ok () := by
  unfold checkSignature
  constructor
  · intro h
    split at h
    · cases h
    · obtain ⟨s, hs, -⟩ := Service.Verifier.verify_pinned.1 h
      cases hs
    next s hread =>
      split at h
      · cases h
      next hcontext =>
        obtain ⟨s', hs, hanchor, hvalid⟩ := Service.Verifier.verify_pinned.1 h
        obtain rfl := Option.some.inj hs
        exact ⟨hcontext, s, Service.Signature.ofForm_eq_some.1 hread, hanchor, hvalid⟩
  · rintro ⟨hcontext, s, hspelled, hanchor, hvalid⟩
    rw [Service.Signature.ofForm_eq_some.2 hspelled]
    dsimp only
    rw [hcontext]
    exact Service.Verifier.verify_pinned.2 ⟨s, rfl, hanchor, hvalid⟩

end SignPost.Response
