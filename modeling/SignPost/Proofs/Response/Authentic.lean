import SignPost.Proofs.Response.Accepted
import SignPost.Proofs.Service.Canonical

/-!
# What a pinned certificate vouches for

`signed_iff_authentic`: a processor with a trust anchor accepts a response if and only if the
response is `Authentic`, a condition on the fields of the form and on what is remembered of the
request. The signed bytes are given by name (`coveredText`): what belongs to the request is taken
from memory alone, what belongs to the response is the first value of its name in the form.

Proof. `process_eq_signed` leaves the check of the signature. Its source of values (`signedValues`)
has at each name the text of `coveredText`, because the certificate that it was given is the one of
the form (`canonical_signedValues`).
-/

namespace SignPost.Response

variable {expected : Expected} {form : Form}

/-! ## The bytes that are covered -/

/-- The text that a service signature covers under a name. -/
def coveredText (expected : Expected) (form : Form) : String → Option String
  | "target" => expected.target
  | "SignatureRequest" => expected.document
  | "SignatureRequestId" => expected.artifact
  | "language" => expected.language
  | "ContentType" => expected.contentType
  | "SignatureResponse" => form.value? "SignatureResponse"
  | "SignatureResponseId" => form.value? "SignatureResponseId"
  | "SignatureCertificate" => form.value? "SignatureCertificate"
  | "RelayState" => form.value? "RelayState"
  | _ => none

/-- The texts under the names of a list, one after the other. -/
def coveredBytes (names : List String) (expected : Expected) (form : Form) : Bytes :=
  names.flatMap fun name =>
    match coveredText expected form name with
    | some text => Utf8.ofString text
    | none => []

theorem coveredText_name {certificate : String}
    (hcertificate : form.value? SignableField.signatureCertificate.name = some certificate)
    (f : SignableField) :
    coveredText expected form f.name =
      (signedValues expected form (some certificate)).value? f := by
  cases f with
  | signatureCertificate => exact hcertificate
  | _ => rfl

/-- Only the names of fields that can be covered have a text. -/
theorem coveredText_of_ofName? {name : String} (hname : SignableField.ofName? name = none) :
    coveredText expected form name = none := by
  have hne : ∀ f : SignableField, name ≠ f.name := by
    rintro f rfl
    rw [SignableField.ofName?_name] at hname
    cases hname
  unfold coveredText
  split
  · exact absurd rfl (hne .target)
  · exact absurd rfl (hne .signatureRequest)
  · exact absurd rfl (hne .signatureRequestId)
  · exact absurd rfl (hne .language)
  · exact absurd rfl (hne .contentType)
  · exact absurd rfl (hne .signatureResponse)
  · exact absurd rfl (hne .signatureResponseId)
  · exact absurd rfl (hne .signatureCertificate)
  · exact absurd rfl (hne .relayState)
  · rfl

/-- What is remembered and what came back, together, have these texts. -/
instance : FieldSource (Expected × Form) :=
  ⟨fun source f => coveredText source.1 source.2 f.name⟩

theorem canonicalBytes_covered (names : List String) :
    Service.canonicalBytes names (expected, form) = coveredBytes names expected form := by
  unfold Service.canonicalBytes coveredBytes
  congr 1
  funext name
  rw [Service.fieldBytes]
  cases hname : SignableField.ofName? name with
  | none =>
    rw [coveredText_of_ofName? hname]
    rfl
  | some f =>
    rw [← SignableField.name_of_ofName? hname]
    rfl

/-- Any holder of these texts gives the same bytes. -/
theorem canonicalBytes_of_coveredText {α : Type} [FieldSource α] {source : α} {names : List String}
    (hsource : ∀ f : SignableField, f.name ∈ names →
      FieldSource.value? source f = coveredText expected form f.name) :
    Service.canonicalBytes names source = coveredBytes names expected form := by
  rw [← canonicalBytes_covered]
  apply Service.canonicalBytes_congr
  intro f hf
  rw [Service.textOf, hsource f hf]
  rfl

/-- Of the response, nothing but the first value of a name is looked at. -/
theorem coveredText_congr {form' : Form} {f : SignableField}
    (h : form'.value? f.name = form.value? f.name) :
    coveredText expected form' f.name = coveredText expected form f.name := by
  cases f with
  | signatureResponse => exact h
  | signatureResponseId => exact h
  | signatureCertificate => exact h
  | relayState => exact h
  | _ => rfl

theorem coveredBytes_congr {form' : Form} {names : List String}
    (h : ∀ f : SignableField, f.name ∈ names → form'.value? f.name = form.value? f.name) :
    coveredBytes names expected form' = coveredBytes names expected form := by
  rw [← canonicalBytes_covered]
  exact canonicalBytes_of_coveredText fun f hf => coveredText_congr (h f hf)

theorem canonical_signedValues {certificate : String} (list : Service.SignedList)
    (hcertificate : form.value? SignableField.signatureCertificate.name = some certificate) :
    list.canonical (signedValues expected form (some certificate)) =
      coveredBytes list.names expected form :=
  canonicalBytes_of_coveredText fun f _ => (coveredText_name hcertificate f).symm

/-! ## Pinned processors -/

/-- The form spells a service signature by the pinned certificate, valid for the covered bytes. -/
structure Vouched (anchor : TrustAnchor) (algorithm : Signing.Algorithm) (expected : Expected)
    (form : Form) (s : Service.Signature) : Prop where
  spelled : Service.Signature.Spelled form s
  pinned : Hash.Sha1.digest s.leaf.der = anchor.fingerprint
  valid : Signing.validate algorithm s.leaf.publicKey.bytes
    (coveredBytes s.signed.names expected form) s.value = .ok ()

variable {anchor : TrustAnchor} {algorithm : Signing.Algorithm} {result : Result} {c : Certificate}

theorem checkSignature_pinned {certificate : String}
    (hcertificate : form.value? SignableField.signatureCertificate.name = some certificate) :
    checkSignature ⟨some anchor, algorithm⟩ expected form (some certificate) = .ok () ↔
      checkContext expected = .ok () ∧ ∃ s, Vouched anchor algorithm expected form s := by
  rw [checkSignature_eq_ok]
  constructor
  · rintro ⟨hcontext, s, hspelled, hpinned, hvalid⟩
    rw [canonical_signedValues s.signed hcertificate] at hvalid
    exact ⟨hcontext, s, hspelled, hpinned, hvalid⟩
  · rintro ⟨hcontext, s, hspelled, hpinned, hvalid⟩
    rw [← canonical_signedValues s.signed hcertificate] at hvalid
    exact ⟨hcontext, s, hspelled, hpinned, hvalid⟩

theorem process_pinned :
    Processor.process ⟨⟨some anchor, algorithm⟩⟩ expected form = .ok (.signed result c) ↔
      form.value? Field.status = some statusOk ∧ HasResult form result ∧ HasCertificate form c ∧
        relayStateMatches expected form = true ∧ checkContext expected = .ok () ∧
          ∃ s, Vouched anchor algorithm expected form s := by
  rw [process_eq_signed]
  constructor
  · rintro ⟨hstatus, hresult, hrelay, certificate, hcertificate, hread, hsignature⟩
    obtain ⟨hcontext, hvouched⟩ := (checkSignature_pinned hcertificate).1 hsignature
    exact ⟨hstatus, hresult, ⟨certificate, hcertificate, hread⟩, hrelay, hcontext, hvouched⟩
  · rintro ⟨hstatus, hresult, ⟨certificate, hcertificate, hread⟩, hrelay, hcontext, hvouched⟩
    have hsignature := (checkSignature_pinned hcertificate).2 ⟨hcontext, hvouched⟩
    exact ⟨hstatus, hresult, hrelay, certificate, hcertificate, hread, hsignature⟩

theorem relayStateMatches_eq_true :
    relayStateMatches expected form = true ↔
      ∀ state, expected.relayState = some state → form.value? "RelayState" = some state := by
  have hname : SignableField.relayState.name = "RelayState" := rfl
  unfold relayStateMatches
  rw [hname]
  cases expected.relayState with
  | none => simp
  | some state => simp

/-- A response with a result and a certificate, to the request that is remembered, and vouched for
by the pinned certificate. -/
structure Authentic (anchor : TrustAnchor) (algorithm : Signing.Algorithm) (expected : Expected)
    (form : Form) (result : Result) (c : Certificate) : Prop where
  status : form.value? "SignatureStatus" = some "OK"
  result : HasResult form result
  certificate : HasCertificate form c
  relayState : ∀ state, expected.relayState = some state → form.value? "RelayState" = some state
  target : expected.target.isSome = true
  request : expected.document.isSome = true ∨ expected.artifact.isSome = true
  signature : ∃ s, Vouched anchor algorithm expected form s

/-- A processor with a trust anchor accepts authentic responses and no others. -/
theorem signed_iff_authentic (anchor : TrustAnchor) (algorithm : Signing.Algorithm)
    (expected : Expected) (form : Form) (result : Result) (c : Certificate) :
    Processor.process ⟨⟨some anchor, algorithm⟩⟩ expected form = .ok (.signed result c) ↔
      Authentic anchor algorithm expected form result c := by
  constructor
  · intro h
    obtain ⟨hstatus, hresult, hcertificate, hrelay, hcontext, hvouched⟩ := process_pinned.1 h
    obtain ⟨htarget, hrequest⟩ := checkContext_eq_ok.1 hcontext
    have hstate := relayStateMatches_eq_true.1 hrelay
    exact ⟨hstatus, hresult, hcertificate, hstate, htarget, hrequest, hvouched⟩
  · rintro ⟨hstatus, hresult, hcertificate, hstate, htarget, hrequest, hvouched⟩
    have hrelay := relayStateMatches_eq_true.2 hstate
    have hcontext := checkContext_eq_ok.2 ⟨htarget, hrequest⟩
    exact process_pinned.2 ⟨hstatus, hresult, hcertificate, hrelay, hcontext, hvouched⟩

end SignPost.Response
