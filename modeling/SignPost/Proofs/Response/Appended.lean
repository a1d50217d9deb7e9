import SignPost.Proofs.Response.FirstValues

/-!
# What is appended to a response

`appended_body_cannot_override`: fields that are sent behind those of a response are read as if they
had come by themselves, whatever bytes they are, and none of them takes the place of one that was
there before. So the news that the user declined, a status that is unknown and a second payload stay
what they are (`Settled`), and fields whose names are all taken change nothing.

Proof. A body is cut at each `&` before anything in it is decoded, so no escape reaches across the
joint (`Form.ofBody_append`), and a look-up finds the first value. What is settled is decided by
first values that are there (`decided_of_settled`), because no check behind these has such a result
(`not_settled_presenceChecked`).
-/

namespace SignPost.Response

/-- The results that no further field can change. -/
inductive Settled : Except Error Outcome → Prop where
  | cancelled : Settled (.ok .cancelled)
  | invalidStatus (status : String) : Settled (.error (.invalidStatus status))
  | ambiguousPayload : Settled (.error .ambiguousPayload)

section

variable {verifier : Service.Verifier} {expected : Expected} {form later : Form} {p : Processor}

/-! ## What decides -/

theorem process_of_status {status : String} (hstatus : form.value? Field.status = some status)
    (hne : status ≠ statusOk) :
    p.process expected form =
      if status = statusCancelled then .ok .cancelled else .error (.invalidStatus status) := by
  rw [Processor.process, run_start, hstatus]
  dsimp only
  rw [if_neg hne]

theorem process_of_payloads {text id : String}
    (hstatus : form.value? Field.status = some statusOk)
    (htext : form.value? SignableField.signatureResponse.name = some text)
    (hid : form.value? SignableField.signatureResponseId.name = some id) :
    p.process expected form = .error .ambiguousPayload := by
  rw [Processor.process, run_start, hstatus]
  dsimp only
  rw [if_pos rfl, run_statusChecked_of_both _ _ htext hid]

/-- The check of the signature reports what is wrong with the signature, or that the request is not
known well enough. -/
theorem not_settled_checkSignature {certificate : Option String} {e : Error}
    (h : checkSignature verifier expected form certificate = .error e) : ¬Settled (.error e) := by
  have hreported : e.isIntegrityFailure = true ∨ ∃ cause, e = .missingRequestContext cause := by
    unfold checkSignature at h
    split at h
    next fault hread =>
      obtain ⟨cause, rfl⟩ := Service.Signature.ofForm_eq_error hread
      cases h
      exact Or.inl rfl
    next => exact Or.inl (Service.Verifier.isIntegrityFailure_of_verify h)
    next =>
      split at h
      next fault hcontext =>
        obtain rfl := Except.error.inj h
        unfold checkContext at hcontext
        split_ifs at hcontext <;> cases hcontext <;> exact Or.inr ⟨_, rfl⟩
      next => exact Or.inl (Service.Verifier.isIntegrityFailure_of_verify h)
  intro hsettled
  cases hsettled <;> simp [Error.isIntegrityFailure] at hreported

theorem not_settled_extract {payload : Payload} {certificate : String} :
    ¬Settled (extract (some payload) (some certificate)) := by
  unfold extract
  dsimp only
  cases Certificate.ofBase64 certificate with
  | error e => rintro ⟨⟩
  | ok c =>
    cases payload with
    | artifact id => rintro ⟨⟩
    | document text =>
      simp only [readPayload]
      cases Base64.decodeForm text with
      | error e => rintro ⟨⟩
      | ok content => rintro ⟨⟩

/-- Once there are one payload and a certificate, nothing is settled any more. -/
theorem not_settled_presenceChecked {payload : Payload} {certificate : String} :
    ¬Settled (run verifier expected form ⟨.presenceChecked, some payload, some certificate⟩) := by
  rw [run_presenceChecked, run_relayStateChecked]
  split_ifs with hrelay
  · cases hsignature : checkSignature verifier expected form (some certificate) with
    | error e => exact not_settled_checkSignature hsignature
    | ok => exact not_settled_extract
  · rintro ⟨⟩

theorem not_settled_statusChecked {payload : Payload} (h : HasPayload form payload) :
    ¬Settled (run verifier expected form ⟨.statusChecked, none, none⟩) := by
  rw [run_statusChecked none none h]
  cases form.value? SignableField.signatureCertificate.name with
  | none => rintro ⟨⟩
  | some certificate => exact not_settled_presenceChecked

/-- What is settled is so by the status, or by two payloads. -/
theorem decided_of_settled (h : Settled (p.process expected form)) :
    (∃ status, form.value? Field.status = some status ∧ status ≠ statusOk) ∨
      form.value? Field.status = some statusOk ∧
        ∃ text id, form.value? SignableField.signatureResponse.name = some text ∧
          form.value? SignableField.signatureResponseId.name = some id := by
  rw [Processor.process, run_start] at h
  cases hstatus : form.value? Field.status with
  | none =>
    rw [hstatus] at h
    cases h
  | some status =>
    by_cases hok : status = statusOk
    · subst hok
      rw [hstatus] at h
      dsimp only at h
      rw [if_pos rfl] at h
      refine Or.inr ⟨rfl, ?_⟩
      cases htext : form.value? SignableField.signatureResponse.name with
      | none =>
        cases hid : form.value? SignableField.signatureResponseId.name with
        | none =>
          rw [run_statusChecked_of_neither _ _ htext hid] at h
          cases h
        | some id => exact absurd h (not_settled_statusChecked (.artifact htext hid))
      | some text =>
        cases hid : form.value? SignableField.signatureResponseId.name with
        | none => exact absurd h (not_settled_statusChecked (.document htext hid))
        | some id => exact ⟨text, id, rfl, rfl⟩
    · exact Or.inl ⟨status, rfl, hok⟩

/-! ## What is appended -/

theorem value?_append_of_some {name value : String} (h : form.value? name = some value) :
    (form.append later).value? name = some value := by
  rw [Form.value?_append, h, Option.some_or]

/-- What is settled stays so, whatever is appended. -/
theorem process_append_of_settled (h : Settled (p.process expected form)) :
    p.process expected (form.append later) = p.process expected form := by
  rcases decided_of_settled h with ⟨status, hstatus, hne⟩ | ⟨hstatus, text, id, htext, hid⟩
  · rw [process_of_status hstatus hne, process_of_status (value?_append_of_some hstatus) hne]
  · rw [process_of_payloads hstatus htext hid, process_of_payloads (value?_append_of_some hstatus)
      (value?_append_of_some htext) (value?_append_of_some hid)]

theorem value?_append_of_contains
    (h : ∀ field ∈ later.fields, form.contains field.1 = true) (name : String) :
    (form.append later).value? name = form.value? name := by
  rw [Form.value?_append]
  cases hfirst : form.value? name with
  | some value => rfl
  | none =>
    rw [Option.none_or]
    cases hlater : later.value? name with
    | none => rfl
    | some value =>
      obtain ⟨before, after, hfields, -⟩ := List.lookup_eq_some_iff.1 hlater
      have hmem : (name, value) ∈ later.fields := by
        rw [hfields]
        exact List.mem_append_right before List.mem_cons_self
      have htaken := h _ hmem
      rw [Form.contains, hfirst] at htaken
      cases htaken

end

/-- The fields of two bodies joined by `&` are those of the first and then those of the second,
whatever bytes they are; so a name has its value in the first if it has one there, and else that in
the second. A response that the user declined, whose status is unknown or that has two payloads
stays so, whatever is appended to its body; and where all names that are appended are taken, every
processor comes to the same as without them. -/
theorem appended_body_cannot_override (body later : Bytes) :
    (Form.ofBody (body ++ 38 :: later)).fields =
        (Form.ofBody body).fields ++ (Form.ofBody later).fields ∧
      (∀ name, (Form.ofBody (body ++ 38 :: later)).value? name =
        match (Form.ofBody body).value? name with
        | some value => some value
        | none => (Form.ofBody later).value? name) ∧
      (∀ (p : Processor) (expected : Expected), Settled (p.processBody expected body) →
        p.processBody expected (body ++ 38 :: later) = p.processBody expected body) ∧
      ((∀ field ∈ (Form.ofBody later).fields, (Form.ofBody body).contains field.1 = true) →
        ∀ (p : Processor) (expected : Expected),
          p.processBody expected (body ++ 38 :: later) = p.processBody expected body) := by
  have hjoined : Form.ofBody (body ++ 38 :: later) =
      (Form.ofBody body).append (Form.ofBody later) := Form.ofBody_append body later
  simp only [Processor.processBody, hjoined]
  refine ⟨rfl, ?_, ?_, ?_⟩
  · intro name
    rw [Form.value?_append]
    cases (Form.ofBody body).value? name <;> rfl
  · intro p expected h
    exact process_append_of_settled h
  · intro h p expected
    exact run_congr (SameFirstValues.of_value? (value?_append_of_contains h)) {}

section sample

/-- The user has declined. A status behind that does not count, and an escape that was cut before
the joint is not made whole behind it. -/
theorem sample_appended_body :
    let body := Utf8.ofString "SignatureStatus=USER_CANCELLED&x=%4"
    let later := Utf8.ofString "1&SignatureStatus=OK"
    let known := Utf8.ofString "x=1&SignatureStatus=OK"
    let p : Processor := ⟨⟨none, .rs1⟩⟩
    Settled (p.processBody default body) ∧
      p.processBody default (body ++ 38 :: later) = .ok .cancelled ∧
      (Form.ofBody (body ++ 38 :: later)).value? "x" = some "%4" ∧
      (∀ field ∈ (Form.ofBody known).fields, (Form.ofBody body).contains field.1 = true) ∧
      p.processBody default (body ++ 38 :: known) = .ok .cancelled := by
  intro body later known p
  obtain ⟨-, hvalue, hsettled, -⟩ := appended_body_cannot_override body later
  obtain ⟨-, -, -, htaken⟩ := appended_body_cannot_override body known
  have hcancelled : p.processBody default body = .ok .cancelled :=
    process_eq_cancelled.2 (by decide +kernel)
  have hbody : Settled (p.processBody default body) := by
    rw [hcancelled]
    exact Settled.cancelled
  have hx : (Form.ofBody body).value? "x" = some "%4" := by decide +kernel
  have hknown : ∀ field ∈ (Form.ofBody known).fields,
      (Form.ofBody body).contains field.1 = true := by decide +kernel
  refine ⟨hbody, (hsettled p default hbody).trans hcancelled, ?_, hknown,
    (htaken hknown p default).trans hcancelled⟩
  rw [hvalue "x", hx]

end sample

end SignPost.Response
