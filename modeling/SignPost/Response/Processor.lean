import SignPost.Form.UrlEncoded
import SignPost.Response.Basic
import SignPost.Service.Verifier
import SignPost.Settings.Basic

/-!
# Processing responses

A processor is built once, with or without a trust anchor, and validates any number of responses,
each for itself. A response is checked in five steps: its status, the presence of payload and
certificate, the relay state, the service signature, and last the content of certificate and
payload. The first step that fails or finishes decides. A record is carried along that says how far
the validation is and what has been found in the form. A step that needs what an earlier one has
found looks whether it is there, and a validation that is over does not go on.

A transition is inverted once (`passes_of_step`). That a validation ends is a consequence.
-/

namespace SignPost.Response

/-! ## Records -/

inductive State where
  | start
  | statusChecked
  | presenceChecked
  | relayStateChecked
  | signatureVerified
  | done
  | cancelled
  | rejected
deriving DecidableEq, Repr

def State.title : State → String
  | .start => "Start"
  | .statusChecked => "StatusChecked"
  | .presenceChecked => "PresenceChecked"
  | .relayStateChecked => "RelayStateChecked"
  | .signatureVerified => "SignatureVerified"
  | .done => "Done"
  | .cancelled => "Cancelled"
  | .rejected => "Rejected"

/-- How far a validation is, and what it has found. -/
structure Validation where
  state : State := .start
  payload : Option Payload := none
  certificate : Option String := none
deriving DecidableEq, Repr

def Validation.enter (v : Validation) (state : State) : Validation :=
  { v with state := state }

inductive Transition where
  | to (state : State)
  | finish (outcome : Outcome)
deriving DecidableEq, Repr

/-! ## Checks -/

/-- The values that a service signature of a response covers: those of the request as remembered,
those of the response as they came. -/
def signedValues (expected : Expected) (form : Form) (certificate : Option String) :
    SignedValues where
  target := expected.target
  signatureRequest := expected.document
  signatureRequestId := expected.artifact
  signatureResponse := form.value? SignableField.signatureResponse.name
  signatureResponseId := form.value? SignableField.signatureResponseId.name
  signatureCertificate := certificate
  language := expected.language
  contentType := expected.contentType
  relayState := form.value? SignableField.relayState.name

def checkStatus (form : Form) : Except Error Transition :=
  match form.value? Field.status with
  | none => .error .missingStatus
  | some status =>
    if status = statusOk then .ok (.to .statusChecked)
    else if status = statusCancelled then .ok (.finish .cancelled)
    else .error (.invalidStatus status)

/-- Fills in the certificate. -/
def checkCertificate (form : Form) (v : Validation) : Except Error Transition × Validation :=
  match form.value? SignableField.signatureCertificate.name with
  | none => (.error .missingCertificate, v)
  | some certificate => (.ok (.to .presenceChecked), { v with certificate := some certificate })

/-- Fills in the payload, and then the certificate. -/
def checkPresence (form : Form) (v : Validation) : Except Error Transition × Validation :=
  match form.value? SignableField.signatureResponse.name,
      form.value? SignableField.signatureResponseId.name with
  | some _, some _ => (.error .ambiguousPayload, v)
  | none, none => (.error .missingPayload, v)
  | some text, none => checkCertificate form { v with payload := some (.document text) }
  | none, some id => checkCertificate form { v with payload := some (.artifact id) }

/-- The relay state is the remembered one, if one is remembered. -/
def relayStateMatches (expected : Expected) (form : Form) : Bool :=
  expected.relayState.isNone || form.value? SignableField.relayState.name = expected.relayState

/-- What is remembered is enough to rebuild the signed bytes. -/
def checkContext (expected : Expected) : Except Error Unit :=
  if expected.target.isNone then .error (.missingRequestContext .noTarget)
  else if expected.document.isNone && expected.artifact.isNone then
    .error (.missingRequestContext .noRequest)
  else .ok ()

def checkSignature (verifier : Service.Verifier) (expected : Expected) (form : Form)
    (certificate : Option String) : Except Error Unit :=
  match Service.Signature.ofForm form with
  | .error e => .error e
  | .ok none => verifier.verify none (signedValues expected form certificate)
  | .ok (some s) =>
    match checkContext expected with
    | .error e => .error e
    | .ok () => verifier.verify (some s) (signedValues expected form certificate)

def readPayload : Payload → Except Error Result
  | .artifact id => .ok (.artifact id)
  | .document text =>
    match Base64.decodeForm text with
    | .ok content => .ok (.document content)
    | .error _ => .error .invalidPayload

def extract (payload : Option Payload) (certificate : Option String) : Except Error Outcome :=
  match certificate with
  | none => .error .missingCertificate
  | some text =>
    match Certificate.ofBase64 text with
    | .error e => .error (.invalidCertificate e)
    | .ok c =>
      match payload with
      | none => .error .missingPayload
      | some payload =>
        match readPayload payload with
        | .error e => .error e
        | .ok result => .ok (.signed result c)

/-! ## Transitions -/

/-- What a transition comes to: the next record, or the result and the record that is left. -/
inductive Progress where
  | next (v : Validation)
  | last (v : Validation) (result : Except Error Outcome)

section

variable (verifier : Service.Verifier) (expected : Expected) (form : Form)

/-- What the check of a state says, and the record after it. -/
def check (v : Validation) : Except Error Transition × Validation :=
  match v.state with
  | .start => (checkStatus form, v)
  | .statusChecked => checkPresence form v
  | .presenceChecked =>
    (if relayStateMatches expected form then .ok (.to .relayStateChecked)
      else .error .relayStateMismatch, v)
  | .relayStateChecked =>
    ((checkSignature verifier expected form v.certificate).map fun _ => .to .signatureVerified, v)
  | .signatureVerified => ((extract v.payload v.certificate).map .finish, v)
  | .done | .cancelled | .rejected =>
    (.error (.badParameter (.validationFinished v.state.title)), v)

def step (v : Validation) : Progress :=
  match check verifier expected form v with
  | (.ok (.to state), v) => .next (v.enter state)
  | (.ok (.finish outcome), v) =>
    .last (v.enter (if outcome.isCancelled then .cancelled else .done)) (.ok outcome)
  | (.error e, v) => .last (v.enter .rejected) (.error e)

end

/-- The payload of a form that has one of the two fields for it and not the other. -/
inductive HasPayload (form : Form) : Payload → Prop
  | document {text : String}
      (htext : form.value? SignableField.signatureResponse.name = some text)
      (hid : form.value? SignableField.signatureResponseId.name = none) :
      HasPayload form (.document text)
  | artifact {id : String}
      (htext : form.value? SignableField.signatureResponse.name = none)
      (hid : form.value? SignableField.signatureResponseId.name = some id) :
      HasPayload form (.artifact id)

/-- How a validation goes on from one record to another. -/
inductive Passes (verifier : Service.Verifier) (expected : Expected) (form : Form) :
    Validation → Validation → Prop
  | status {p : Option Payload} {c : Option String}
      (hstatus : form.value? Field.status = some statusOk) :
      Passes verifier expected form ⟨.start, p, c⟩ ⟨.statusChecked, p, c⟩
  | presence {p : Option Payload} {c : Option String} {payload : Payload} {certificate : String}
      (hpayload : HasPayload form payload)
      (hcertificate : form.value? SignableField.signatureCertificate.name = some certificate) :
      Passes verifier expected form ⟨.statusChecked, p, c⟩
        ⟨.presenceChecked, some payload, some certificate⟩
  | relayState {p : Option Payload} {c : Option String}
      (hrelay : relayStateMatches expected form = true) :
      Passes verifier expected form ⟨.presenceChecked, p, c⟩ ⟨.relayStateChecked, p, c⟩
  | signature {p : Option Payload} {c : Option String}
      (hsignature : checkSignature verifier expected form c = .ok ()) :
      Passes verifier expected form ⟨.relayStateChecked, p, c⟩ ⟨.signatureVerified, p, c⟩

section

variable {verifier : Service.Verifier} {expected : Expected} {form : Form} {v next : Validation}

theorem checkStatus_eq_to {state : State} (h : checkStatus form = .ok (.to state)) :
    form.value? Field.status = some statusOk ∧ state = .statusChecked := by
  unfold checkStatus at h
  split at h
  · cases h
  next status hstatus =>
    split at h
    next hok =>
      cases h
      exact ⟨by rw [hstatus, hok], rfl⟩
    next => split at h <;> cases h

theorem checkCertificate_eq_to {state : State}
    (h : checkCertificate form v = (.ok (.to state), next)) :
    ∃ certificate, form.value? SignableField.signatureCertificate.name = some certificate ∧
      state = .presenceChecked ∧ next = { v with certificate := some certificate } := by
  unfold checkCertificate at h
  split at h
  · cases h
  next certificate hcertificate =>
    cases h
    exact ⟨certificate, hcertificate, rfl, rfl⟩

theorem checkPresence_eq_to {state : State} (h : checkPresence form v = (.ok (.to state), next)) :
    ∃ payload certificate, HasPayload form payload ∧
      form.value? SignableField.signatureCertificate.name = some certificate ∧
        state = .presenceChecked ∧ next = ⟨v.state, some payload, some certificate⟩ := by
  unfold checkPresence at h
  split at h
  · cases h
  · cases h
  next text _ htext hid =>
    obtain ⟨certificate, hcertificate, rfl, rfl⟩ := checkCertificate_eq_to h
    exact ⟨_, certificate, .document htext hid, hcertificate, rfl, rfl⟩
  next _ id htext hid =>
    obtain ⟨certificate, hcertificate, rfl, rfl⟩ := checkCertificate_eq_to h
    exact ⟨_, certificate, .artifact htext hid, hcertificate, rfl, rfl⟩

theorem exists_of_map_eq_ok {α β : Type} {x : Except Error α} {g : α → β} {b : β}
    (h : x.map g = .ok b) : ∃ a, x = .ok a ∧ g a = b := by
  cases x with
  | error e => cases h
  | ok a => exact ⟨a, rfl, Except.ok.inj h⟩

theorem step_eq_next (h : step verifier expected form v = .next next) :
    ∃ state u, check verifier expected form v = (.ok (.to state), u) ∧ next = u.enter state := by
  unfold step at h
  split at h
  next state u hcheck => exact ⟨state, u, hcheck, (Progress.next.inj h).symm⟩
  next => cases h
  next => cases h

theorem passes_of_step (h : step verifier expected form v = .next next) :
    Passes verifier expected form v next := by
  obtain ⟨state, u, hcheck, rfl⟩ := step_eq_next h
  obtain ⟨s, p, c⟩ := v
  cases s with
  | start =>
    obtain ⟨hto, rfl⟩ := Prod.mk.inj hcheck
    obtain ⟨hstatus, rfl⟩ := checkStatus_eq_to hto
    exact .status hstatus
  | statusChecked =>
    obtain ⟨payload, certificate, hpayload, hcertificate, rfl, rfl⟩ := checkPresence_eq_to hcheck
    exact .presence hpayload hcertificate
  | presenceChecked =>
    obtain ⟨hto, rfl⟩ := Prod.mk.inj hcheck
    split at hto
    next hrelay =>
      cases hto
      exact .relayState hrelay
    next => cases hto
  | relayStateChecked =>
    obtain ⟨hto, rfl⟩ := Prod.mk.inj hcheck
    obtain ⟨_, hsignature, hstate⟩ := exists_of_map_eq_ok hto
    cases hstate
    exact .signature hsignature
  | signatureVerified =>
    obtain ⟨hto, rfl⟩ := Prod.mk.inj hcheck
    obtain ⟨_, _, hstate⟩ := exists_of_map_eq_ok hto
    cases hstate
  | done => cases hcheck
  | cancelled => cases hcheck
  | rejected => cases hcheck

end

/-! ## Runs -/

/-- How many transitions a state is away from the end, at most. -/
def State.stepsLeft : State → Nat
  | .start => 5
  | .statusChecked => 4
  | .presenceChecked => 3
  | .relayStateChecked => 2
  | .signatureVerified => 1
  | .done => 0
  | .cancelled => 0
  | .rejected => 0

theorem Passes.stepsLeft {verifier : Service.Verifier} {expected : Expected} {form : Form}
    {v next : Validation} (h : Passes verifier expected form v next) :
    next.state.stepsLeft + 1 = v.state.stepsLeft := by
  cases h <;> rfl

/-- The result of a validation from a record on. -/
def run (verifier : Service.Verifier) (expected : Expected) (form : Form) (v : Validation) :
    Except Error Outcome :=
  match _h : step verifier expected form v with
  | .last _ result => result
  | .next next => run verifier expected form next
termination_by v.state.stepsLeft
decreasing_by
  have hleft := (passes_of_step _h).stepsLeft
  omega

/-! ## Processors -/

structure Processor where
  verifier : Service.Verifier := {}
deriving DecidableEq, Repr, Inhabited

namespace Processor

def ofSettings (s : Settings) : Except Error Processor :=
  match s.verifier with
  | .error e => .error e
  | .ok v => .ok ⟨v⟩

def process (p : Processor) (expected : Expected) (form : Form) : Except Error Outcome :=
  run p.verifier expected form {}

/-- What a response comes to, given as a request body. -/
def processBody (p : Processor) (expected : Expected) (body : Bytes) : Except Error Outcome :=
  p.process expected (Form.ofBody body)

end Processor

end SignPost.Response
