import SignPost.Proofs.Response.Authentic
import SignPost.Proofs.Response.States

/-!
# The order of the checks

`process_eq_first_decision`: the result of processing a response is what the first check decides, of
those that decide anything, in the order of `Check.order`. Each check is stated for itself
(`Check.decision`), over the first values of the form and what is remembered of the request, and
does not know of the checks before it; so whatever is wrong with a response, and however many
things are, the first of them in this order is reported.

Proof. The checks are divided among the states (`State.checks`). A transition from a record that is
`Underway` gives a last result if and only if one of the checks of its state decides, and then that
of the first one (`findSome?_checks`). By induction over a run, the same holds of a record and all
the checks from its state on (`findSome?_pending`).
-/

namespace SignPost.Response

/-! ## Checks -/

/-- What is checked of a response. -/
inductive Check where
  | statusPresent
  | cancellation
  | statusOk
  | onePayload
  | payloadPresent
  | certificatePresent
  | relayState
  | signatureReadable
  | target
  | request
  | signature
  | certificateReadable
  | payloadReadable
  /-- Where nothing is wrong, the response is accepted. -/
  | acceptance
deriving DecidableEq, Repr

/-- The checks in the order in which they decide. -/
def Check.order : List Check :=
  [.statusPresent, .cancellation, .statusOk, .onePayload, .payloadPresent, .certificatePresent,
    .relayState, .signatureReadable, .target, .request, .signature, .certificateReadable,
    .payloadReadable, .acceptance]

/-- The result in a form, if there is one that can be read. -/
def result? (form : Form) : Option Result :=
  match form.value? "SignatureResponse" with
  | some text => (Base64.decodeForm text).toOption.map .document
  | none => (form.value? "SignatureResponseId").map .artifact

/-- What a check decides by itself, if it decides. -/
def Check.decision (verifier : Service.Verifier) (expected : Expected) (form : Form) :
    Check → Option (Except Error Outcome)
  | statusPresent =>
    if form.value? "SignatureStatus" = none then some (.error .missingStatus) else none
  | cancellation =>
    if form.value? "SignatureStatus" = some "USER_CANCELLED" then some (.ok .cancelled) else none
  | statusOk =>
    match form.value? "SignatureStatus" with
    | some status => if status = "OK" then none else some (.error (.invalidStatus status))
    | none => none
  | onePayload =>
    if (form.value? "SignatureResponse").isSome ∧ (form.value? "SignatureResponseId").isSome then
      some (.error .ambiguousPayload)
    else none
  | payloadPresent =>
    if form.value? "SignatureResponse" = none ∧ form.value? "SignatureResponseId" = none then
      some (.error .missingPayload)
    else none
  | certificatePresent =>
    if form.value? "SignatureCertificate" = none then some (.error .missingCertificate) else none
  | relayState =>
    match expected.relayState with
    | some state =>
      if form.value? "RelayState" = some state then none else some (.error .relayStateMismatch)
    | none => none
  | signatureReadable =>
    match Service.Signature.ofForm form with
    | .error e => some (.error e)
    | .ok _ => none
  | target =>
    match Service.Signature.ofForm form with
    | .ok (some _) =>
      if expected.target = none then some (.error (.missingRequestContext .noTarget)) else none
    | _ => none
  | request =>
    match Service.Signature.ofForm form with
    | .ok (some _) =>
      if expected.document = none ∧ expected.artifact = none then
        some (.error (.missingRequestContext .noRequest))
      else none
    | _ => none
  | signature =>
    match Service.Signature.ofForm form with
    | .ok s =>
      match verifier.verify s (expected, form) with
      | .error e => some (.error e)
      | .ok () => none
    | .error _ => none
  | certificateReadable =>
    match (form.value? "SignatureCertificate").map Certificate.ofBase64 with
    | some (.error e) => some (.error (.invalidCertificate e))
    | _ => none
  | payloadReadable =>
    match (form.value? "SignatureResponse").map Base64.decodeForm with
    | some (.error _) => some (.error .invalidPayload)
    | _ => none
  | acceptance =>
    match result? form, (form.value? "SignatureCertificate").map Certificate.ofBase64 with
    | some result, some (.ok c) => some (.ok (.signed result c))
    | _, _ => none

/-! ## The checks of a state -/

/-- The checks that are made in the transition from a state. -/
def State.checks : State → List Check
  | .start => [.statusPresent, .cancellation, .statusOk]
  | .statusChecked => [.onePayload, .payloadPresent, .certificatePresent]
  | .presenceChecked => [.relayState]
  | .relayStateChecked => [.signatureReadable, .target, .request, .signature]
  | .signatureVerified => [.certificateReadable, .payloadReadable, .acceptance]
  | .done | .cancelled | .rejected => []

/-- The checks that are left in a state. -/
def State.pending : State → List Check
  | .start => Check.order
  | .statusChecked => Check.order.drop 3
  | .presenceChecked => Check.order.drop 6
  | .relayStateChecked => Check.order.drop 7
  | .signatureVerified => Check.order.drop 11
  | .done | .cancelled | .rejected => []

section

variable {verifier : Service.Verifier} {expected : Expected} {form : Form}

theorem exists_pending (s : State) : ∃ later, s.pending = s.checks ++ later := by
  cases s <;> exact ⟨_, rfl⟩

theorem Passes.pending {v next : Validation} (h : Passes verifier expected form v next) :
    v.state.pending = v.state.checks ++ next.state.pending := by
  cases h <;> rfl

/-- What is verified are the texts that are covered. -/
theorem verify_signedValues {certificate : String} (s : Option Service.Signature)
    (hcertificate : form.value? SignableField.signatureCertificate.name = some certificate) :
    verifier.verify s (signedValues expected form (some certificate)) =
      verifier.verify s (expected, form) := by
  cases s with
  | none => rfl
  | some s =>
    have hbytes : s.signed.canonical (signedValues expected form (some certificate)) =
        s.signed.canonical (expected, form) := by
      rw [canonical_signedValues s.signed hcertificate, Service.SignedList.canonical,
        canonicalBytes_covered]
    rw [Service.Verifier.verify, Service.Verifier.verify, hbytes]

section

variable {p : Option Payload} {c : Option String} {payload : Payload} {certificate : String}

theorem findSome?_start :
    State.start.checks.findSome? (Check.decision verifier expected form) =
      (step verifier expected form ⟨.start, p, c⟩).result? := by
  simp only [State.checks, List.findSome?, Check.decision, step, check, checkStatus, Field.status,
    statusOk, statusCancelled]
  cases form.value? "SignatureStatus" with
  | none => rfl
  | some status =>
    by_cases hok : status = "OK"
    · simp [hok, Progress.result?]
    · by_cases hcancelled : status = "USER_CANCELLED"
      · simp [hcancelled, Progress.result?]
      · simp [hok, hcancelled, Progress.result?]

theorem findSome?_statusChecked :
    State.statusChecked.checks.findSome? (Check.decision verifier expected form) =
      (step verifier expected form ⟨.statusChecked, p, c⟩).result? := by
  simp only [State.checks, List.findSome?, Check.decision, step, check, checkPresence,
    checkCertificate, SignableField.name]
  cases form.value? "SignatureResponse" with
  | none =>
    cases form.value? "SignatureResponseId" with
    | none => rfl
    | some id => cases form.value? "SignatureCertificate" <;> rfl
  | some text =>
    cases form.value? "SignatureResponseId" with
    | none => cases form.value? "SignatureCertificate" <;> rfl
    | some id => rfl

theorem findSome?_presenceChecked :
    State.presenceChecked.checks.findSome? (Check.decision verifier expected form) =
      (step verifier expected form ⟨.presenceChecked, p, c⟩).result? := by
  cases hexpected : expected.relayState with
  | none =>
    have hmatches : relayStateMatches expected form = true := by
      rw [relayStateMatches, hexpected]
      rfl
    simp [State.checks, Check.decision, step, check, hexpected, hmatches, Progress.result?]
  | some state =>
    by_cases hstate : form.value? "RelayState" = some state
    · have hmatches : relayStateMatches expected form = true := by
        rw [relayStateMatches, hexpected]
        exact decide_eq_true hstate
      simp [State.checks, Check.decision, step, check, hexpected, hstate, hmatches,
        Progress.result?]
    · have hmatches : relayStateMatches expected form = false := by
        rw [relayStateMatches, hexpected]
        exact decide_eq_false hstate
      simp [State.checks, Check.decision, step, check, hexpected, hstate, hmatches,
        Progress.result?]

theorem findSome?_relayStateChecked
    (hcertificate : form.value? SignableField.signatureCertificate.name = some certificate) :
    State.relayStateChecked.checks.findSome? (Check.decision verifier expected form) =
      (step verifier expected form ⟨.relayStateChecked, p, some certificate⟩).result? := by
  simp only [State.checks, List.findSome?, Check.decision, step, check, checkSignature,
    checkContext, verify_signedValues _ hcertificate]
  cases Service.Signature.ofForm form with
  | error e => rfl
  | ok s =>
    cases s with
    | none =>
      dsimp only
      cases verifier.verify none (expected, form) <;> rfl
    | some s =>
      cases expected.target with
      | none => rfl
      | some target =>
        cases expected.document with
        | none =>
          cases expected.artifact with
          | none => rfl
          | some artifact =>
            dsimp
            cases verifier.verify (some s) (expected, form) <;> rfl
        | some document =>
          dsimp
          cases verifier.verify (some s) (expected, form) <;> rfl

theorem findSome?_signatureVerified (hpayload : HasPayload form payload)
    (hcertificate : form.value? SignableField.signatureCertificate.name = some certificate) :
    State.signatureVerified.checks.findSome? (Check.decision verifier expected form) =
      (step verifier expected form
        ⟨.signatureVerified, some payload, some certificate⟩).result? := by
  have hname : form.value? "SignatureCertificate" = some certificate := hcertificate
  simp only [State.checks, List.findSome?, Check.decision, step, check, extract, hname,
    Option.map_some]
  cases Certificate.ofBase64 certificate with
  | error e => rfl
  | ok c =>
    cases hpayload with
    | @document text htext hid =>
      have hresponse : form.value? "SignatureResponse" = some text := htext
      simp only [result?, hresponse, Option.map_some, readPayload]
      cases Base64.decodeForm text <;> rfl
    | @artifact id htext hid =>
      have hresponse : form.value? "SignatureResponse" = none := htext
      have hresponseId : form.value? "SignatureResponseId" = some id := hid
      simp only [result?, hresponse, hresponseId, Option.map_some, Option.map_none]
      rfl

end

/-- A transition gives the result of the first check of its state that decides, and is not the last
one if none does. -/
theorem findSome?_checks {v : Validation} (hv : Underway form v) :
    v.state.checks.findSome? (Check.decision verifier expected form) =
      (step verifier expected form v).result? := by
  cases hv with
  | start => exact findSome?_start
  | statusChecked => exact findSome?_statusChecked
  | presenceChecked => exact findSome?_presenceChecked
  | relayStateChecked _ hcertificate => exact findSome?_relayStateChecked hcertificate
  | signatureVerified hpayload hcertificate =>
    exact findSome?_signatureVerified hpayload hcertificate

/-- From a record on, a run comes to what the first of the checks that are left decides. -/
theorem findSome?_pending {v : Validation} (hv : Underway form v) :
    v.state.pending.findSome? (Check.decision verifier expected form) =
      some (run verifier expected form v) := by
  induction v using run.induct verifier expected form with
  | case1 v last result hstep =>
    obtain ⟨later, hpending⟩ := exists_pending v.state
    rw [hpending, List.findSome?_append, findSome?_checks hv, run_eq_match, hstep]
    rfl
  | case2 v next hstep ih =>
    have hpasses := passes_of_step hstep
    rw [hpasses.pending, List.findSome?_append, findSome?_checks hv, hstep,
      ih (hpasses.underway hv), run_eq_match v, hstep]
    rfl

theorem findSome?_order (p : Processor) (expected : Expected) (form : Form) :
    Check.order.findSome? (Check.decision p.verifier expected form) =
      some (p.process expected form) :=
  findSome?_pending .start

end

/-- The first check that decides gives the result of processing a response. The user has declined
if and only if the status says so. A validation ends with its fifth transition at the latest. While
it goes on, it is after `n` transitions in the state `n` of the order, and from the third state on,
also when it is done, its record holds a payload and a certificate, which are those of the form. -/
theorem process_eq_first_decision (p : Processor) (expected : Expected) (form : Form) :
    Check.order.findSome? (Check.decision p.verifier expected form) =
        some (p.process expected form) ∧
      (p.process expected form = .ok .cancelled ↔
        form.value? "SignatureStatus" = some "USER_CANCELLED") ∧
      (∃ n v last, n < 5 ∧ Reaches p.verifier expected form n v ∧
        step p.verifier expected form v = .last last (p.process expected form)) ∧
      ∀ n v, Reaches p.verifier expected form n v →
        State.order[n]? = some v.state ∧ (2 ≤ n → v.Filled form) ∧
          ∀ last result, step p.verifier expected form v = .last last result →
            last.state = .done → last.Filled form := by
  refine ⟨findSome?_order p expected form, process_eq_cancelled, exists_last, fun n v hv =>
    ⟨hv.state_eq, hv.filled, fun last result hlast hdone => ?_⟩⟩
  obtain ⟨hstate, rfl⟩ := eq_of_step_done hlast hdone
  exact hv.underway.filled (by rw [hstate]; decide) (by rw [hstate]; decide)

end SignPost.Response
