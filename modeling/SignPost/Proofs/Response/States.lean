import SignPost.Proofs.Response.Accepted

/-!
# The states of a validation

`Reaches` says which record a validation has after a number of transitions. What every such record
keeps is `Underway`: it is in one of the five states in which there is something to check, and from
the third of these on the payload and the certificate are filled in with those of the form. This is
kept by each way to go on (`Passes.underway`), and so by induction on the transitions
(`Reaches.underway`); the state is known from their number (`Reaches.state_eq`). So a validation
never goes on after its end, and never finds a payload or a certificate missing that its state asks
for. It comes to its last transition, and that gives its result (`exists_last`).
-/

namespace SignPost.Response

variable {verifier : Service.Verifier} {expected : Expected} {form : Form}

/-! ## What a record has found -/

/-- Payload and certificate are filled in, and are those of the form. -/
def Validation.Filled (form : Form) (v : Validation) : Prop :=
  ∃ payload certificate, v.payload = some payload ∧ v.certificate = some certificate ∧
    HasPayload form payload ∧
      form.value? SignableField.signatureCertificate.name = some certificate

/-- A validation that is not over, and has found what its state asks for. -/
inductive Underway (form : Form) : Validation → Prop
  | start {p : Option Payload} {c : Option String} : Underway form ⟨.start, p, c⟩
  | statusChecked {p : Option Payload} {c : Option String} : Underway form ⟨.statusChecked, p, c⟩
  | presenceChecked {payload : Payload} {certificate : String} (hpayload : HasPayload form payload)
      (hcertificate : form.value? SignableField.signatureCertificate.name = some certificate) :
      Underway form ⟨.presenceChecked, some payload, some certificate⟩
  | relayStateChecked {payload : Payload} {certificate : String}
      (hpayload : HasPayload form payload)
      (hcertificate : form.value? SignableField.signatureCertificate.name = some certificate) :
      Underway form ⟨.relayStateChecked, some payload, some certificate⟩
  | signatureVerified {payload : Payload} {certificate : String}
      (hpayload : HasPayload form payload)
      (hcertificate : form.value? SignableField.signatureCertificate.name = some certificate) :
      Underway form ⟨.signatureVerified, some payload, some certificate⟩

theorem Passes.underway {v next : Validation} (h : Passes verifier expected form v next)
    (hv : Underway form v) : Underway form next := by
  cases h with
  | status => exact .statusChecked
  | presence hpayload hcertificate => exact .presenceChecked hpayload hcertificate
  | relayState =>
    cases hv with
    | presenceChecked hpayload hcertificate => exact .relayStateChecked hpayload hcertificate
  | signature =>
    cases hv with
    | relayStateChecked hpayload hcertificate => exact .signatureVerified hpayload hcertificate

theorem Underway.filled {v : Validation} (h : Underway form v) (hstart : v.state ≠ .start)
    (hstatus : v.state ≠ .statusChecked) : v.Filled form := by
  cases h with
  | start => exact absurd rfl hstart
  | statusChecked => exact absurd rfl hstatus
  | presenceChecked hpayload hcertificate => exact ⟨_, _, rfl, rfl, hpayload, hcertificate⟩
  | relayStateChecked hpayload hcertificate => exact ⟨_, _, rfl, rfl, hpayload, hcertificate⟩
  | signatureVerified hpayload hcertificate => exact ⟨_, _, rfl, rfl, hpayload, hcertificate⟩

/-! ## Runs -/

/-- A validation has this record after so many transitions, and goes on. -/
inductive Reaches (verifier : Service.Verifier) (expected : Expected) (form : Form) :
    Nat → Validation → Prop
  | start : Reaches verifier expected form 0 {}
  | next {n : Nat} {v next : Validation} (hv : Reaches verifier expected form n v)
      (hstep : step verifier expected form v = .next next) :
      Reaches verifier expected form (n + 1) next

theorem Reaches.underway {n : Nat} {v : Validation} (h : Reaches verifier expected form n v) :
    Underway form v := by
  induction h with
  | start => exact .start
  | next _ hstep ih => exact (passes_of_step hstep).underway ih

theorem Reaches.add_stepsLeft {n : Nat} {v : Validation} (h : Reaches verifier expected form n v) :
    n + v.state.stepsLeft = 5 := by
  induction h with
  | start => rfl
  | next _ hstep ih =>
    have hleft := (passes_of_step hstep).stepsLeft
    omega

/-- The states in which there is something to check, in order. -/
def State.order : List State :=
  [.start, .statusChecked, .presenceChecked, .relayStateChecked, .signatureVerified]

/-- The number of transitions tells the state. -/
theorem Reaches.state_eq {n : Nat} {v : Validation} (h : Reaches verifier expected form n v) :
    State.order[n]? = some v.state := by
  have hleft := h.add_stepsLeft
  have hn : n = 5 - v.state.stepsLeft := by omega
  subst hn
  cases h.underway <;> rfl

theorem Reaches.lt_five {n : Nat} {v : Validation} (h : Reaches verifier expected form n v) :
    n < 5 := by
  obtain ⟨hn, -⟩ := List.getElem?_eq_some_iff.1 h.state_eq
  exact hn

/-- After two transitions payload and certificate are found, and are those of the form. -/
theorem Reaches.filled {n : Nat} {v : Validation} (h : Reaches verifier expected form n v)
    (hn : 2 ≤ n) : v.Filled form := by
  have hleft := h.add_stepsLeft
  refine h.underway.filled ?_ ?_
  · intro hstate
    rw [hstate, State.stepsLeft] at hleft
    omega
  · intro hstate
    rw [hstate, State.stepsLeft] at hleft
    omega

/-! ## The last transition -/

/-- The result that a transition gives, if it is the last one. -/
def Progress.result? : Progress → Option (Except Error Outcome)
  | .next _ => none
  | .last _ result => some result

theorem checkStatus_eq_finish {outcome : Outcome} (h : checkStatus form = .ok (.finish outcome)) :
    outcome = .cancelled := by
  unfold checkStatus at h
  split at h
  · cases h
  · split_ifs at h
    · cases h
    · cases h
      rfl

theorem checkPresence_ne_finish {v next : Validation} {outcome : Outcome} :
    checkPresence form v ≠ (.ok (.finish outcome), next) := by
  intro h
  simp only [checkPresence, checkCertificate] at h
  split at h
  · cases h
  · cases h
  · split at h <;> cases h
  · split at h <;> cases h

/-- A validation is done after the last check, and only then. -/
theorem eq_of_step_done {v last : Validation} {result : Except Error Outcome}
    (h : step verifier expected form v = .last last result) (hdone : last.state = .done) :
    v.state = .signatureVerified ∧ last = v.enter .done := by
  unfold step at h
  split at h
  next => cases h
  next outcome u hcheck =>
    obtain ⟨rfl, -⟩ := Progress.last.inj h
    obtain ⟨s, p, c⟩ := v
    cases s with
    | start =>
      obtain ⟨hfinish, -⟩ := Prod.mk.inj hcheck
      rw [checkStatus_eq_finish hfinish] at hdone
      cases hdone
    | statusChecked => exact absurd hcheck checkPresence_ne_finish
    | presenceChecked =>
      obtain ⟨hfinish, -⟩ := Prod.mk.inj hcheck
      split_ifs at hfinish
      cases hfinish
    | relayStateChecked =>
      obtain ⟨hfinish, -⟩ := Prod.mk.inj hcheck
      obtain ⟨_, _, hstate⟩ := exists_of_map_eq_ok hfinish
      cases hstate
    | signatureVerified =>
      obtain ⟨-, rfl⟩ := Prod.mk.inj hcheck
      have hstate : (if outcome.isCancelled then State.cancelled else .done) = .done := hdone
      rw [hstate]
      exact ⟨rfl, rfl⟩
    | done => cases hcheck
    | cancelled => cases hcheck
    | rejected => cases hcheck
  next e u hcheck =>
    obtain ⟨rfl, -⟩ := Progress.last.inj h
    cases hdone

theorem exists_last_of_reaches {n : Nat} {v : Validation}
    (h : Reaches verifier expected form n v) :
    ∃ m u last, Reaches verifier expected form m u ∧
      step verifier expected form u = .last last (run verifier expected form v) := by
  induction v using run.induct verifier expected form generalizing n with
  | case1 v last result hstep =>
    refine ⟨n, v, last, h, ?_⟩
    rw [run_eq_match, hstep]
  | case2 v next hstep ih =>
    rw [run_eq_match, hstep]
    exact ih (h.next hstep)

/-- The fifth transition at the latest is the last one, and gives the result. -/
theorem exists_last :
    ∃ n v last, n < 5 ∧ Reaches verifier expected form n v ∧
      step verifier expected form v = .last last (run verifier expected form {}) := by
  have hfirst : Reaches verifier expected form 0 {} := .start
  obtain ⟨n, v, last, hv, hstep⟩ := exists_last_of_reaches hfirst
  exact ⟨n, v, last, hv.lt_five, hv, hstep⟩

end SignPost.Response
