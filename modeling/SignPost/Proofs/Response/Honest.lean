import SignPost.Response.Basic
import SignPost.Proofs.Form.UrlEncoded
import SignPost.Proofs.Request.Fields
import SignPost.Proofs.Response.Authentic
import SignPost.Proofs.Signing.Signer

/-!
# Honest responses are accepted

`honest_response_accepted`: what a service answers to a request that could be sent, signed over any
list of fields with the key of the pinned certificate, comes through the browser as the result and
the certificate that the service put into it.

Proof. The fields of the service signature have names of their own, so the form keeps its other
values when they are added (`process_appendTo`) and the signature is read back from them. What the
service signs and what the verifier rebuilds are both the covered bytes (`canonical_covered`): the
service adds the fields of the request to a response that has none of them.
-/

namespace SignPost.Response

/-! ## What is looked at -/

section congr

variable {form form' : Form}

theorem HasPayload.congr (h : ∀ f : SignableField, form'.value? f.name = form.value? f.name)
    {payload : Payload} (hpayload : HasPayload form payload) : HasPayload form' payload := by
  cases hpayload with
  | document htext hid => exact .document (by rw [h, htext]) (by rw [h, hid])
  | artifact htext hid => exact .artifact (by rw [h, htext]) (by rw [h, hid])

theorem HasResult.congr (h : ∀ f : SignableField, form'.value? f.name = form.value? f.name)
    {result : Result} (hresult : HasResult form result) : HasResult form' result := by
  obtain ⟨payload, hpayload, hread⟩ := hresult
  exact ⟨payload, hpayload.congr h, hread⟩

theorem HasCertificate.congr (h : ∀ f : SignableField, form'.value? f.name = form.value? f.name)
    {c : Certificate} (hc : HasCertificate form c) : HasCertificate form' c := by
  obtain ⟨text, htext, hread⟩ := hc
  exact ⟨text, by rw [h, htext], hread⟩

end congr

/-! ## A form with a signature at its end -/

section append

variable {expected : Expected} {form : Form} {anchor : TrustAnchor}
  {algorithm : Signing.Algorithm} {s : Service.Signature} {result : Result} {c : Certificate}

theorem value?_appendTo (f : SignableField) :
    (s.appendTo form).value? f.name = form.value? f.name :=
  Service.Signature.value?_appendTo_of_not_isService (Field.not_isService_name f)

theorem coveredBytes_appendTo (names : List String) :
    coveredBytes names expected (s.appendTo form) = coveredBytes names expected form :=
  coveredBytes_congr fun f _ => value?_appendTo f

/-- A response is accepted with a signature by the pinned certificate over the covered bytes. -/
theorem process_appendTo (hstatus : form.value? Field.status = some statusOk)
    (hresult : HasResult form result) (hc : HasCertificate form c)
    (hrelay : relayStateMatches expected form = true) (hcontext : checkContext expected = .ok ())
    (hform : Service.Signature.Unsigned form) (hs : s.Sendable)
    (hpinned : Hash.Sha1.digest s.leaf.der = anchor.fingerprint)
    (hvalid : Signing.validate algorithm s.leaf.publicKey.bytes
      (coveredBytes s.signed.names expected form) s.value = .ok ()) :
    Processor.process ⟨⟨some anchor, algorithm⟩⟩ expected (s.appendTo form) =
      .ok (.signed result c) := by
  have hvouched : Vouched anchor algorithm expected (s.appendTo form) s := by
    refine ⟨?_, hpinned, ?_⟩
    · exact Service.Signature.ofForm_eq_some.1 (Service.Signature.ofForm_appendTo hform hs)
    · rw [coveredBytes_appendTo]
      exact hvalid
  refine process_pinned.2 ⟨?_, hresult.congr value?_appendTo, hc.congr value?_appendTo, ?_,
    hcontext, s, hvouched⟩
  · rw [Service.Signature.value?_appendTo_of_not_isService Field.not_isService_status, hstatus]
  · rw [relayStateMatches, value?_appendTo]
    exact hrelay

end append

/-! ## The answer of a service -/

/-- The fields of a signed response, before a service signature is added. -/
def answer (result : Result) (der : Bytes) (relayState : Option String) : Form :=
  Form.empty
    |>.push Field.status statusOk
    |>.pushIf SignableField.signatureResponse.name (result.document?.map Base64.encode)
    |>.pushIf SignableField.signatureResponseId.name result.artifact?
    |>.push SignableField.signatureCertificate.name (Base64.encode der)
    |>.pushIf SignableField.relayState.name relayState

section answer

variable {result : Result} {der : Bytes} {relayState : Option String} {expected : Expected}

theorem value?_answer (wanted : String) :
    (answer result der relayState).value? wanted =
      (((((if wanted = Field.status then some statusOk else none).or
        (if wanted = SignableField.signatureResponse.name then
          result.document?.map Base64.encode else none)).or
        (if wanted = SignableField.signatureResponseId.name then result.artifact? else none)).or
        (if wanted = SignableField.signatureCertificate.name then
          some (Base64.encode der) else none)).or
        (if wanted = SignableField.relayState.name then relayState else none)) := by
  simp only [answer, Form.value?_push, Form.value?_pushIf]
  rfl

theorem status_answer : (answer result der relayState).value? Field.status = some statusOk := by
  rw [value?_answer]
  rfl

theorem unsigned_answer : Service.Signature.Unsigned (answer result der relayState) :=
  Service.Signature.unsigned_empty
    |>.push Field.not_isService_status _
    |>.pushIf (Field.not_isService_name .signatureResponse) _
    |>.pushIf (Field.not_isService_name .signatureResponseId) _
    |>.push (Field.not_isService_name .signatureCertificate) _
    |>.pushIf (Field.not_isService_name .relayState) _

theorem value?_answer_name (f : SignableField) :
    (answer result der relayState).value? f.name =
      match f with
      | .signatureResponse => result.document?.map Base64.encode
      | .signatureResponseId => result.artifact?
      | .signatureCertificate => some (Base64.encode der)
      | .relayState => relayState
      | _ => none := by
  rw [value?_answer]
  cases f <;> simp [SignableField.name, Field.status]

theorem hasResult_answer : HasResult (answer result der relayState) result := by
  cases result with
  | document content =>
    exact hasResult_document.2 ⟨value?_answer_name .signatureResponseId, Base64.encode content,
      value?_answer_name .signatureResponse, Base64.decodeForm_encode content⟩
  | artifact id =>
    exact hasResult_artifact.2 ⟨value?_answer_name .signatureResponse,
      value?_answer_name .signatureResponseId⟩

theorem hasCertificate_answer {c : Certificate} (hder : Certificate.ofDer der = .ok c) :
    HasCertificate (answer result der relayState) c := by
  refine ⟨Base64.encode der, value?_answer_name .signatureCertificate, ?_⟩
  rw [Certificate.ofBase64_encode, hder]

theorem relayStateMatches_answer
    (hrelay : ∀ state, expected.relayState = some state → relayState = some state) :
    relayStateMatches expected (answer result der relayState) = true := by
  refine relayStateMatches_eq_true.2 fun state hstate => ?_
  have hvalue : (answer result der relayState).value? "RelayState" = relayState :=
    value?_answer_name .relayState
  rw [hvalue]
  exact hrelay state hstate

end answer

/-! ## What the service signs -/

/-- The service signs the covered bytes, if its response repeats no field of the request. -/
theorem canonical_covered {expected : Expected} {form : Form} (list : Service.SignedList)
    (hform : ∀ f ∈ [SignableField.target, .signatureRequest, .signatureRequestId, .language,
      .contentType], form.value? f.name = none) :
    list.canonical (covered expected form) = coveredBytes list.names expected form := by
  have htarget : form.value? "target" = none := hform .target (by decide)
  have hrequest : form.value? "SignatureRequest" = none := hform .signatureRequest (by decide)
  have hid : form.value? "SignatureRequestId" = none := hform .signatureRequestId (by decide)
  have hlanguage : form.value? "language" = none := hform .language (by decide)
  have htype : form.value? "ContentType" = none := hform .contentType (by decide)
  refine canonicalBytes_of_coveredText fun f _ => ?_
  change (covered expected form).value? f.name = coveredText expected form f.name
  unfold covered
  simp only [Form.value?_pushIf]
  cases f <;>
    simp [SignableField.name, coveredText, htarget, hrequest, hid, hlanguage, htype]

theorem canonical_covered_answer {result : Result} {der : Bytes} {relayState : Option String}
    {expected : Expected} (list : Service.SignedList) :
    list.canonical (covered expected (answer result der relayState)) =
      coveredBytes list.names expected (answer result der relayState) := by
  refine canonical_covered list fun f hf => ?_
  rw [value?_answer_name]
  simp only [List.mem_cons, List.not_mem_nil, or_false] at hf
  rcases hf with rfl | rfl | rfl | rfl | rfl <;> rfl

/-- What a signer makes of a response over listed fields. -/
theorem sign_of_presents {signer : Signing.Signer} {leaf : Certificate}
    {issuers : List Certificate} {signed : Service.SignedList} {expected : Expected} {form : Form}
    {value : Bytes} (hsigner : signer.Presents leaf issuers)
    (hvalue : signer.sign (signed.canonical (covered expected form)) = .ok value) :
    sign signer signed expected form = .ok ⟨signed, value, leaf, issuers⟩ := by
  obtain ⟨ders, hchain, hreads⟩ := hsigner.chain
  have hcertificates := Signing.readChain_response hreads
  rw [sign, hvalue, hchain]
  change (readChain ders).bind _ = _
  rw [hcertificates]
  rfl

/-! ## The whole ceremony -/

theorem checkContext_ofRequest {check : Url.Check} {q : Request}
    (hq : q.validate check = .ok ()) :
    checkContext (Expected.ofRequest q) = .ok () := by
  refine checkContext_eq_ok.2 ⟨rfl, ?_⟩
  rcases Request.payload_of_validate hq with ⟨document, hdocument, -⟩ | ⟨artifact, -, hartifact⟩
  · exact Or.inl (by rw [Expected.ofRequest, hdocument]; rfl)
  · exact Or.inr (by rw [Expected.ofRequest, hartifact]; rfl)

section ceremony

variable {check : Url.Check} {q : Request} {result : Result} {der : Bytes} {c : Certificate}
  {relayState : Option String} {signer : Signing.Signer} {leaf : Certificate}
  {issuers : List Certificate} {value : Bytes}

theorem process_answer (hq : q.validate check = .ok ()) (hder : Certificate.ofDer der = .ok c)
    (hrelay : ∀ state, q.relayState = some state → relayState = some state)
    (hsigner : signer.Presents leaf issuers) (names : String)
    (hvalue : signer.sign (coveredBytes (Service.SignedList.parse names).names
      (Expected.ofRequest q) (answer result der relayState)) = .ok value) :
    Processor.process ⟨⟨some (TrustAnchor.ofCertificate leaf), signer.algorithm⟩⟩
      (Expected.ofRequest q) (Service.Signature.appendTo
        ⟨Service.SignedList.parse names, value, leaf, issuers⟩ (answer result der relayState)) =
          .ok (.signed result c) := by
  have hnames : ∀ name ∈ (Service.SignedList.parse names).names,
      Service.SignedList.IsName name.toList :=
    fun _ hname => Service.SignedList.isName_of_mem_parse hname
  apply process_appendTo
  · exact status_answer
  · exact hasResult_answer
  · exact hasCertificate_answer hder
  · exact relayStateMatches_answer hrelay
  · exact checkContext_ofRequest hq
  · exact unsigned_answer
  · exact hsigner.sendable value hnames
  · rfl
  · exact hsigner.valid _ _ hvalue

/-- For a request that could be sent, what the service answers and signs with the key of its
certificate `leaf` is accepted by a processor that pins this certificate. -/
theorem honest_response_accepted (hq : q.validate check = .ok ()) (result : Result)
    (hder : Certificate.ofDer der = .ok c)
    (hrelay : ∀ state, q.relayState = some state → relayState = some state)
    (hsigner : signer.Presents leaf issuers) (names : String)
    (hvalue : signer.sign (coveredBytes (Service.SignedList.parse names).names
      (Expected.ofRequest q) (answer result der relayState)) = .ok value) :
    ∃ s, sign signer (Service.SignedList.parse names) (Expected.ofRequest q)
        (answer result der relayState) = .ok s ∧
      Processor.processBody ⟨⟨some (TrustAnchor.ofCertificate leaf), signer.algorithm⟩⟩
        (Expected.ofRequest q) (s.appendTo (answer result der relayState)).toBody =
          .ok (.signed result c) := by
  have hsign := hvalue
  rw [← canonical_covered_answer] at hsign
  refine ⟨_, sign_of_presents hsigner hsign, ?_⟩
  rw [Processor.processBody, Form.ofBody_toBody]
  exact process_answer hq hder hrelay hsigner names hvalue

end ceremony

section sample

open Signing.Sample

/-- A document is returned that was signed together with a list of names that is not tidy. -/
theorem sample_response_accepted :
    let list := Service.SignedList.parse " target,SignatureResponse%2Clanguage,,target,size"
    let expected := Expected.ofRequest Request.sample
    let form := answer (.document [0x68, 0x69]) der (some "a&b=c")
    Request.sample.validate Url.check = .ok () ∧ Certificate.ofDer der = .ok leaf ∧
      (∀ state, Request.sample.relayState = some state → some "a&b=c" = some state) ∧
      (signer .rs256).Presents leaf [] ∧
      ∃ value s, (signer .rs256).sign (coveredBytes list.names expected form) = .ok value ∧
        sign (signer .rs256) list expected form = .ok s ∧
        Processor.processBody ⟨⟨some (TrustAnchor.ofCertificate leaf), .rs256⟩⟩ expected
          (s.appendTo form).toBody = .ok (.signed (.document [0x68, 0x69]) leaf) := by
  intro list expected form
  have hstate : ∀ state, Request.sample.relayState = some state → some "a&b=c" = some state :=
    fun _ h => h
  have hsigns : ((signer .rs256).sign (coveredBytes list.names expected form)).isOk = true := by
    decide +kernel
  obtain ⟨value, hvalue⟩ := exists_signature hsigns
  obtain ⟨s, hs, haccepted⟩ := honest_response_accepted Request.validate_sample
    (.document [0x68, 0x69]) ofDer_der hstate (presents .rs256) _ hvalue
  exact ⟨Request.validate_sample, ofDer_der, hstate, presents .rs256, value, s, hvalue, hs,
    haccepted⟩

end sample

end SignPost.Response
