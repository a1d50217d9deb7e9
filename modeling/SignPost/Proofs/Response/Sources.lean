import SignPost.Proofs.Form.UrlEncoded
import SignPost.Proofs.Request.Fields
import SignPost.Proofs.Response.States
import SignPost.Proofs.Service.Canonical
import SignPost.Proofs.Signing.Signer

/-!
# Where covered values come from

The values under a service signature are looked up in a request, in its plain values, in the form
that is sent, in the form that arrives, and in what is put together for a response.
`sources_agree`: the first four have the same value in each field, so they make the same bytes for
every list. What is put together for a response has the fields of the request from memory and the
others from the response, so that nothing in a response stands in for a field of its request.
-/

namespace SignPost.Response

open Service

/-- The fields that are remembered of a request; the relay state comes back with the response. -/
def rememberedFields : List SignableField :=
  [.target, .signatureRequest, .signatureRequestId, .language, .contentType]

/-- The fields that are read from a response. -/
def receivedFields : List SignableField :=
  [.signatureResponse, .signatureResponseId, .signatureCertificate, .relayState]

section

variable {q : Request} {form : Form} {certificate : Option String} {f : SignableField}

theorem value?_remembered (hf : f ∈ rememberedFields) :
    (signedValues (Expected.ofRequest q) form certificate).value? f = q.value? f := by
  simp only [rememberedFields, List.mem_cons, List.not_mem_nil, or_false] at hf
  rcases hf with rfl | rfl | rfl | rfl | rfl <;> rfl

theorem value?_received
    (hcertificate : form.value? SignableField.signatureCertificate.name = certificate)
    (hf : f ∈ receivedFields) :
    (signedValues (Expected.ofRequest q) form certificate).value? f = form.value? f.name := by
  simp only [receivedFields, List.mem_cons, List.not_mem_nil, or_false] at hf
  rcases hf with rfl | rfl | rfl | rfl
  · rfl
  · rfl
  · exact hcertificate.symm
  · rfl

end

/-- A request, its plain values, and each form that it is sent as, before and after the wire, make
the same bytes for every list of names. The values that are verified of a response, in the state
in which its signature is checked, are those of the request in the fields that are remembered, and
those of the response in the others. -/
theorem sources_agree (q : Request) :
    (∀ names, canonicalBytes names q.signedValues = canonicalBytes names q) ∧
    (∀ check s form, q.toForm check s = .ok form → ∀ names,
      canonicalBytes names form = canonicalBytes names q ∧
        canonicalBytes names (Form.ofBody form.toBody) = canonicalBytes names q) ∧
    ∀ verifier form n v, Reaches verifier (Expected.ofRequest q) form n v →
      v.state = .relayStateChecked →
        (∀ f ∈ rememberedFields,
          (signedValues (Expected.ofRequest q) form v.certificate).value? f = q.value? f) ∧
        ∀ f ∈ receivedFields,
          (signedValues (Expected.ofRequest q) form v.certificate).value? f =
            form.value? f.name := by
  refine ⟨fun names => ?_, fun check s form hform names => ?_,
    fun verifier form n v hreaches hstate => ⟨fun f hf => ?_, fun f hf => ?_⟩⟩
  · exact canonicalBytes_of_value? names Request.value?_signedValues
  · rw [Form.ofBody_toBody]
    have hsame : canonicalBytes names form = canonicalBytes names q :=
      canonicalBytes_of_value? names (Request.value?_toForm hform)
    exact ⟨hsame, hsame⟩
  · exact value?_remembered hf
  · obtain ⟨-, certificate, -, hfound, -, hcertificate⟩ :=
      hreaches.underway.filled (by rw [hstate]; decide) (by rw [hstate]; decide)
    rw [← hfound] at hcertificate
    exact value?_received hcertificate hf

/-- A response that brings a target of its own. -/
def strayResponse : Form :=
  ⟨[("target", "https://other.example/"), ("SignatureStatus", "OK"), ("SignatureResponse", "aGk="),
    ("SignatureCertificate", "MA=="), ("RelayState", "a&b=c"), ("RelayState", "d")]⟩

/-- The sample request, sent with a signature, and a response to it that has a target of its own. -/
theorem sample_sources_agree :
    (∃ form, Request.sample.toForm Url.check
          (some ⟨⟨["target"]⟩, [1, 2], Signing.Sample.leaf, []⟩) = .ok form ∧
      canonicalBytes ["language", "SignatureResponse", "size", "target", "target"]
          (Form.ofBody form.toBody) =
        canonicalBytes ["language", "SignatureResponse", "size", "target", "target"]
          Request.sample) ∧
    Reaches {} (Expected.ofRequest Request.sample) strayResponse 3
        ⟨.relayStateChecked, some (.document "aGk="), some "MA=="⟩ ∧
      (signedValues (Expected.ofRequest Request.sample) strayResponse (some "MA==")).target =
        some "https://sp.example/return" ∧
      (signedValues (Expected.ofRequest Request.sample) strayResponse (some "MA==")).relayState =
        some "a&b=c" := by
  obtain ⟨-, hforms, hvalues⟩ := sources_agree Request.sample
  have hstatus : step {} (Expected.ofRequest Request.sample) strayResponse {} =
      .next ⟨.statusChecked, none, none⟩ := by rfl
  have hpresence : step {} (Expected.ofRequest Request.sample) strayResponse
      ⟨.statusChecked, none, none⟩ =
        .next ⟨.presenceChecked, some (.document "aGk="), some "MA=="⟩ := by rfl
  have hrelay : step {} (Expected.ofRequest Request.sample) strayResponse
      ⟨.presenceChecked, some (.document "aGk="), some "MA=="⟩ =
        .next ⟨.relayStateChecked, some (.document "aGk="), some "MA=="⟩ := by rfl
  have hreaches := ((Reaches.start.next hstatus).next hpresence).next hrelay
  obtain ⟨hremembered, hreceived⟩ := hvalues _ _ _ _ hreaches rfl
  refine ⟨?_, hreaches, ?_, ?_⟩
  · generalize Signing.Sample.leaf = leaf
    have hform : Request.sample.toForm Url.check (some ⟨⟨["target"]⟩, [1, 2], leaf, []⟩) =
        .ok (Signature.appendTo ⟨⟨["target"]⟩, [1, 2], leaf, []⟩ Request.sample.fields) := by
      rw [Request.toForm, Request.validate_sample]
    exact ⟨_, hform, (hforms _ _ _ hform _).2⟩
  · exact hremembered .target (by decide)
  · exact hreceived .relayState (by decide)

end SignPost.Response
