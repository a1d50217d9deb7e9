import SignPost.Proofs.Response.Coverage
import SignPost.Proofs.Response.Sources

/-!
# What is read of a response

`process_reads_first_values`: two responses come to the same if they have the same first values in
the status, in the four fields that are received, and in those of their service signature, of whose
certificates no more are read than its chain size says. How long the forms are, in which order their
fields stand and what else is in them makes no difference, not even to the error that is reported.
So what repeats a name, or stands in for a field of the request, can as well be left out.

Proof. Each transition looks at these values alone (`step_congr`), and a run carries nothing else of
the form along (`run_congr`).
-/

namespace SignPost.Response

open Service

/-- The forms have the same first values in all that is read of a response. -/
structure SameFirstValues (form form' : Form) : Prop extends Signature.SameFields form form' where
  status : form'.value? Field.status = form.value? Field.status
  received : ∀ f ∈ receivedFields, form'.value? f.name = form.value? f.name

section

variable {verifier : Verifier} {expected : Expected} {form form' : Form}

/-! ## Transitions and runs -/

theorem checkPresence_congr (h : SameFirstValues form form') (v : Validation) :
    checkPresence form' v = checkPresence form v := by
  have htext := h.received .signatureResponse (by decide)
  have hid := h.received .signatureResponseId (by decide)
  have hcertificate := h.received .signatureCertificate (by decide)
  simp only [checkPresence, checkCertificate, htext, hid, hcertificate]

theorem relayStateMatches_congr (h : SameFirstValues form form') :
    relayStateMatches expected form' = relayStateMatches expected form := by
  rw [relayStateMatches, relayStateMatches, h.received .relayState (by decide)]

/-- The certificate that is covered comes from the record and not from the form. -/
theorem signedValues_congr (h : SameFirstValues form form') (certificate : Option String) :
    signedValues expected form' certificate = signedValues expected form certificate := by
  have htext := h.received .signatureResponse (by decide)
  have hid := h.received .signatureResponseId (by decide)
  have hrelay := h.received .relayState (by decide)
  rw [signedValues, signedValues, htext, hid, hrelay]

theorem checkSignature_congr (h : SameFirstValues form form') (certificate : Option String) :
    checkSignature verifier expected form' certificate =
      checkSignature verifier expected form certificate := by
  rw [checkSignature, checkSignature, h.ofForm_eq, signedValues_congr h]

theorem check_congr (h : SameFirstValues form form') (v : Validation) :
    check verifier expected form' v = check verifier expected form v := by
  obtain ⟨s, p, c⟩ := v
  cases s with
  | start => simp only [check, checkStatus, h.status]
  | statusChecked => exact checkPresence_congr h _
  | presenceChecked => simp only [check, relayStateMatches_congr h]
  | relayStateChecked => simp only [check, checkSignature_congr h]
  | signatureVerified => rfl
  | done => rfl
  | cancelled => rfl
  | rejected => rfl

theorem step_congr (h : SameFirstValues form form') (v : Validation) :
    step verifier expected form' v = step verifier expected form v := by
  rw [step, step, check_congr h]

theorem run_congr (h : SameFirstValues form form') (v : Validation) :
    run verifier expected form' v = run verifier expected form v := by
  induction v using run.induct verifier expected form with
  | case1 v last result hstep =>
    rw [run_eq_match v, run_eq_match v, step_congr h, hstep]
  | case2 v next hstep ih =>
    rw [run_eq_match v, run_eq_match v, step_congr h, hstep]
    exact ih

/-! ## What can be left out -/

theorem SameFirstValues.of_value? (h : ∀ name, form'.value? name = form.value? name) :
    SameFirstValues form form' where
  toSameFields := .of_isService fun name _ => h name
  status := h _
  received f _ := h f.name

theorem not_remembered_of_received : ∀ f ∈ receivedFields, f ∉ rememberedFields := by
  decide

theorem AgreeOff.sameFirstValues {f : SignableField} (h : AgreeOff f form form')
    (hf : f ∈ rememberedFields) : SameFirstValues form form' where
  toSameFields := .of_isService h.sameSignature
  status := h.status
  received g hg := by
    apply h.value?_of_ne
    rintro rfl
    exact not_remembered_of_received _ hg hf

end

section

variable {before after : List (String × String)} {name value wanted : String}

theorem value?_insert_of_ne (h : wanted ≠ name) :
    Form.value? ⟨before ++ (name, value) :: after⟩ wanted =
      Form.value? ⟨before ++ after⟩ wanted := by
  rw [Form.value?, Form.value?, Form.lookup_append, Form.lookup_append, List.lookup_cons,
    beq_eq_false_iff_ne.2 h]

theorem value?_insert_of_mem {first : String} (h : (name, first) ∈ before) :
    Form.value? ⟨before ++ (name, value) :: after⟩ wanted =
      Form.value? ⟨before ++ after⟩ wanted := by
  by_cases hname : wanted = name
  · subst hname
    rw [Form.value?, Form.value?, Form.lookup_append, Form.lookup_append]
    cases hfound : before.lookup wanted with
    | none => simpa using List.lookup_eq_none_iff.1 hfound _ h
    | some found => rfl
  · exact value?_insert_of_ne hname

/-- A field that repeats a name, or that has the name of one that is remembered of the request, is
not read. -/
theorem sameFirstValues_insert
    (h : name ∈ rememberedFields.map SignableField.name ∨ ∃ first, (name, first) ∈ before) :
    SameFirstValues ⟨before ++ after⟩ ⟨before ++ (name, value) :: after⟩ := by
  rcases h with hname | ⟨first, hfirst⟩
  · obtain ⟨f, hf, rfl⟩ := List.mem_map.1 hname
    have hagree : AgreeOff f ⟨before ++ after⟩ ⟨before ++ (f.name, value) :: after⟩ :=
      fun _ hne => value?_insert_of_ne hne
    exact hagree.sameFirstValues hf
  · exact SameFirstValues.of_value? fun _ => value?_insert_of_mem hfirst

end

/-- Responses with the same first values in what is read come to the same result or the same error.
So a field that repeats a name, or that has the name of one that is remembered of the request, can
be left out wherever it stands. -/
theorem process_reads_first_values (p : Processor) (expected : Expected) :
    (∀ form form', SameFirstValues form form' →
      p.process expected form' = p.process expected form) ∧
    ∀ before name value after,
      (name ∈ ["target", "SignatureRequest", "SignatureRequestId", "language", "ContentType"] ∨
        ∃ first, (name, first) ∈ before) →
      p.process expected ⟨before ++ (name, value) :: after⟩ =
        p.process expected ⟨before ++ after⟩ := by
  constructor
  · intro form form' h
    exact run_congr h {}
  · intro before name value after h
    exact run_congr (sameFirstValues_insert h) {}

/-- A response that is accepted is accepted as well with a field that no one knows and a target in
front, and with the news at its end that the user declined. -/
theorem sample_reads_first_values :
    ∃ form,
      Processor.process ⟨⟨some (TrustAnchor.ofCertificate Signing.Sample.leaf), .rs1⟩⟩
        (Expected.ofRequest Request.sample) form =
          .ok (.signed (.document [0x68, 0x69]) Signing.Sample.leaf) ∧
      Processor.process ⟨⟨some (TrustAnchor.ofCertificate Signing.Sample.leaf), .rs1⟩⟩
        (Expected.ofRequest Request.sample)
        ⟨("target", "https://other.example/") :: ("size", "1") :: form.fields ++
          [("SignatureStatus", "USER_CANCELLED")]⟩ =
          .ok (.signed (.document [0x68, 0x69]) Signing.Sample.leaf) := by
  obtain ⟨form, -, haccepted⟩ := exists_accepted "SignatureResponse" (by decide +kernel)
  obtain ⟨hstatus, -⟩ := process_eq_signed.1 haccepted
  have hfirst : ("SignatureStatus", "OK") ∈ form.fields := by
    obtain ⟨before, after, hfields, -⟩ := List.lookup_eq_some_iff.1 hstatus
    rw [hfields]
    exact List.mem_append_right before List.mem_cons_self
  -- the certificate is not to be read again wherever it is compared
  generalize Signing.Sample.leaf = leaf at haccepted ⊢
  obtain ⟨hsame, hinsert⟩ := process_reads_first_values
    ⟨⟨some (TrustAnchor.ofCertificate leaf), .rs1⟩⟩ (Expected.ofRequest Request.sample)
  have hskip : ∀ wanted, wanted ≠ "size" →
      Form.value? ⟨("size", "1") :: form.fields⟩ wanted = form.value? wanted :=
    fun wanted hne => @value?_insert_of_ne [] form.fields "size" "1" wanted hne
  have hservice : ∀ name, Field.isService name = true → name ≠ "size" := by
    rintro name hname rfl
    exact absurd hname (by decide)
  have hunknown : SameFirstValues form ⟨("size", "1") :: form.fields⟩ :=
    { toSameFields := .of_isService fun name hname => hskip name (hservice name hname)
      status := hskip _ (by decide)
      received := fun f _ => hskip _ (by cases f <;> decide) }
  refine ⟨form, haccepted, ?_⟩
  have hlast := hinsert (("target", "https://other.example/") :: ("size", "1") :: form.fields)
    "SignatureStatus" "USER_CANCELLED" [] (Or.inr ⟨"OK", by simp [hfirst]⟩)
  have htarget := hinsert [] "target" "https://other.example/" (("size", "1") :: form.fields)
    (Or.inl (by decide))
  rw [List.append_nil] at hlast
  rw [hlast]
  exact htarget.trans ((hsame _ _ hunknown).trans haccepted)

end SignPost.Response
