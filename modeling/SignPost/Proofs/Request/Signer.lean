import SignPost.Service.Verifier
import SignPost.Proofs.Form.UrlEncoded
import SignPost.Proofs.Request.Keyless
import SignPost.Proofs.Service.Canonical
import SignPost.Proofs.Service.Verifier
import SignPost.Proofs.Signing.Signer

/-!
# Signed requests

`signed_request_read_back`: the service finds in the body of a signed request the signature that
was made, and a verifier with the certificate of the signer accepts it for the values of the
request. What it covers are all fields of the request.

Proof. Signing, sending and verifying go through the fields of a request in three ways. That they
agree is said field by field: the form and the plain values have the value of each field
(`value?_fields`, `value?_signedValues`), and the names that are signed are those of the form
(`signedNames_perm`).
-/

namespace SignPost.RequestSigner

open Service Signing

section

variable {check : Url.Check} {signer : Signing.Signer} {leaf : Certificate}
  {issuers : List Certificate} {q : Request} {value : Bytes} {f : Form}

/-- The signature that a signer makes for a request. -/
def signatureOf (q : Request) (value : Bytes) (leaf : Certificate) (issuers : List Certificate) :
    Signature :=
  ⟨⟨q.signedNames⟩, value, leaf, issuers⟩

theorem sign_of_presents (hsigner : signer.Presents leaf issuers) :
    sign check ⟨some signer⟩ q =
      match q.validate check with
      | .error e => .error e
      | .ok () =>
        match signer.sign (canonicalBytes q.signedNames q) with
        | .error e => .error (.signer e)
        | .ok value => .ok (signatureOf q value leaf issuers) := by
  obtain ⟨ders, hchain, hreads⟩ := hsigner.chain
  have hread := Signing.readChain_request hreads
  cases hreads with
  | cons hleaf hissuers =>
    unfold sign
    simp only [hchain]
    unfold signWith
    rw [hread]
    rfl

theorem not_keyless_of_presents (hsigner : signer.Presents leaf issuers) :
    ¬Keyless ⟨some signer⟩ := by
  obtain ⟨ders, hchain, hreads⟩ := hsigner.chain
  refine not_keyless_of_chain hchain ?_
  rintro rfl
  cases hreads

/-- With a signer that can be verified, a request is sent signed or not at all. -/
theorem toForm_of_presents (hsigner : signer.Presents leaf issuers) :
    toForm check ⟨some signer⟩ q = .ok f ↔
      q.validate check = .ok () ∧
        ∃ value, signer.sign (canonicalBytes q.signedNames q) = .ok value ∧
          f = (signatureOf q value leaf issuers).appendTo q.fields := by
  rw [toForm_of_key (not_keyless_of_presents hsigner)]
  constructor
  · rintro ⟨s, hsign, hform⟩
    obtain ⟨hq, rfl⟩ := Request.toForm_eq_ok.1 hform
    rw [sign_of_presents hsigner, hq] at hsign
    cases hvalue : signer.sign (canonicalBytes q.signedNames q) with
    | error e =>
      rw [hvalue] at hsign
      cases hsign
    | ok value =>
      rw [hvalue] at hsign
      obtain rfl := Except.ok.inj hsign
      exact ⟨hq, value, rfl, rfl⟩
  · rintro ⟨hq, value, hvalue, rfl⟩
    have hsign : sign check ⟨some signer⟩ q = .ok (signatureOf q value leaf issuers) := by
      rw [sign_of_presents hsigner, hq, hvalue]
    exact ⟨_, hsign, Request.toForm_eq_ok.2 ⟨hq, rfl⟩⟩

theorem sendable_signatureOf (hsigner : signer.Presents leaf issuers) :
    (signatureOf q value leaf issuers).Sendable :=
  hsigner.sendable value fun _ hname => Request.isName_of_mem_signedNames hname

theorem canonical_signedValues :
    canonicalBytes q.signedNames q.signedValues = canonicalBytes q.signedNames q :=
  canonicalBytes_of_value? q.signedNames Request.value?_signedValues

/-- Without the names of the signature, a signed request has the names of the request. -/
theorem names_appendTo (hq : q.validate check = .ok ()) (s : Signature) :
    ((s.appendTo q.fields).fields.map Prod.fst).filter (fun name => !Field.isService name) =
      q.fields.fields.map Prod.fst := by
  have hrequest : ∀ name ∈ q.fields.fields.map Prod.fst, (!Field.isService name) = true := by
    intro name hname
    have hsigned := (Request.signedNames_perm hq).mem_iff.2 hname
    rw [Request.not_isService_of_mem_signedNames hsigned]
    rfl
  have hservice : ∀ name ∈ s.fields.map Prod.fst, ¬(!Field.isService name) = true := by
    intro name hname
    obtain ⟨field, hfield, rfl⟩ := List.mem_map.1 hname
    rw [Signature.isService_of_mem_fields hfield]
    decide
  change ((q.fields.fields ++ s.fields).map Prod.fst).filter _ = _
  rw [List.map_append, List.filter_append, List.filter_eq_self.2 hrequest,
    List.filter_eq_nil_iff.2 hservice, List.append_nil]

/-- A signed request is read back by the service, with the signature that was made for it; the
signature covers each field of the request once and is accepted for the values of the request. -/
theorem signed_request_read_back (hsigner : signer.Presents leaf issuers)
    (hf : toForm check ⟨some signer⟩ q = .ok f) :
    ∃ s, sign check ⟨some signer⟩ q = .ok s ∧ f = s.appendTo q.fields ∧
      Signature.ofForm (Form.ofBody f.toBody) = .ok (some s) ∧
      Verifier.verify ⟨some (TrustAnchor.ofCertificate leaf), signer.algorithm⟩ (some s)
        q.signedValues = .ok () ∧
      s.signed.names.Nodup ∧
      s.signed.names.Perm
        ((f.fields.map Prod.fst).filter fun name => !Field.isService name) ∧
      s.signed.names.Sublist
        ["target", "SignatureRequest", "SignatureRequestId", "language", "ContentType",
          "RelayState"] := by
  obtain ⟨hq, value, hvalue, rfl⟩ := (toForm_of_presents hsigner).1 hf
  have hsign : sign check ⟨some signer⟩ q = .ok (signatureOf q value leaf issuers) := by
    rw [sign_of_presents hsigner, hq, hvalue]
  have hvalid := hsigner.valid _ _ hvalue
  rw [← canonical_signedValues] at hvalid
  refine ⟨_, hsign, rfl, ?_, ?_, Request.nodup_signedNames, ?_, Request.signedNames_sublist⟩
  · rw [Form.ofBody_toBody]
    exact Signature.ofForm_appendTo Request.unsigned_fields (sendable_signatureOf hsigner)
  · exact Verifier.verify_pinned.2 ⟨_, rfl, rfl, hvalid⟩
  · rw [names_appendTo hq]
    exact Request.signedNames_perm hq

end

theorem sample_read_back :
    (Sample.signer .rs1).Presents Sample.leaf [] ∧
      ∃ f, toForm Url.check ⟨some (Sample.signer .rs1)⟩ Request.sample = .ok f ∧
        ∃ s, sign Url.check ⟨some (Sample.signer .rs1)⟩ Request.sample = .ok s ∧
          f = s.appendTo Request.sample.fields ∧
          Signature.ofForm (Form.ofBody f.toBody) = .ok (some s) ∧
          Verifier.verify ⟨some (TrustAnchor.ofCertificate Sample.leaf), .rs1⟩ (some s)
            Request.sample.signedValues = .ok () ∧
          s.signed.names.Nodup ∧
          s.signed.names.Perm
            ((f.fields.map Prod.fst).filter fun name => !Field.isService name) ∧
          s.signed.names.Sublist
            ["target", "SignatureRequest", "SignatureRequestId", "language", "ContentType",
              "RelayState"] := by
  have hsigner := Sample.presents .rs1
  have hsigns : ((Sample.signer .rs1).sign
      (canonicalBytes Request.sample.signedNames Request.sample)).isOk = true := by
    decide +kernel
  obtain ⟨value, hvalue⟩ := Sample.exists_signature hsigns
  have hf := (toForm_of_presents hsigner).2 ⟨Request.validate_sample, value, hvalue, rfl⟩
  exact ⟨hsigner, _, hf, signed_request_read_back hsigner hf⟩

end SignPost.RequestSigner
