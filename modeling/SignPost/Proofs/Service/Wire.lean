import SignPost.Proofs.Form.UrlEncoded
import SignPost.Proofs.Service.Signature
import SignPost.Proofs.Signing.Signer

/-!
# Service signatures survive the wire

`signature_survives_wire`: a signature whose list was read, with any value and any chain of
certificates, is read back from every form that its fields were added to, also when the form went
over the wire, unless the form had one of these fields before; and no other field of the form
changes. Its own fields are few: further certificates of an older chain do not hinder it.

A signature that was read may have been written otherwise, with blanks in its texts or with bytes
behind its certificates. What is kept of it is written again as it is kept (`Spelled.sendable`), so
it is the same signature that is read.
-/

namespace SignPost.Service.Signature

/-- What was read from a form can be sent. -/
theorem Spelled.sendable {form : Form} {s : Signature} (h : Spelled form s) : s.Sendable where
  names := by
    obtain ⟨text, -, hsigned⟩ := h.signed
    rw [hsigned]
    exact fun name hname => SignedList.isName_of_mem_parse hname
  certificates := by
    intro c hc
    obtain ⟨k, hk⟩ := List.mem_iff_getElem?.1 hc
    obtain ⟨text, -, hread⟩ := h.certificates k c hk
    exact Certificate.exists_der_of_ofBase64 hread
  length_le := by
    obtain ⟨text, -, hsize⟩ := h.size
    exact Decimal.le_of_parseCount hsize

/-- A signature is read back from a form that had none of its fields, over the wire or not, and the
other fields of the form keep their values; its list was read from a text, its certificates were
read, and their number fits into the size that is sent with them. A signature that was read from any
form is read back from its own fields. -/
theorem signature_survives_wire :
    (∀ (list : String) (s : Signature) (form : Form), s.signed = SignedList.parse list →
      (∀ c ∈ s.chain, ∃ der, Certificate.ofDer der = .ok c) →
      s.chain.length ≤ Decimal.maxCount →
      (∀ name ∈ fieldNames s.chain.length, form.value? name = none) →
        ∀ received, (received = s.appendTo form ∨
            received = Form.ofBody (Utf8.ofString (s.appendTo form).toUrlEncoded)) →
          ofForm received = .ok (some s) ∧
          ∀ name, name ∉ fieldNames s.chain.length → received.value? name = form.value? name) ∧
    ∀ (form : Form) (s : Signature), ofForm form = .ok (some s) →
      ofForm (s.appendTo Form.empty) = .ok (some s) := by
  constructor
  · intro list s form hlist hcertificates hlength hfree received hreceived
    have hnames : ∀ name ∈ s.signed.names, SignedList.IsName name.toList := by
      rw [hlist]
      exact fun name hname => SignedList.isName_of_mem_parse hname
    have hsame : received = s.appendTo form := by
      rcases hreceived with hreceived | hreceived
      · exact hreceived
      · rw [hreceived, Form.ofString_toUrlEncoded, Form.ofBody_toBody]
    rw [hsame]
    exact ⟨ofForm_appendTo_of_free hfree ⟨hnames, hcertificates, hlength⟩,
      fun name hname => value?_appendTo_of_not_mem hname⟩
  · intro form s hread
    exact ofForm_appendTo unsigned_empty (ofForm_eq_some.1 hread).sendable

section sample

open Signing

/-- A form of a signature that was not written by `appendTo`: with blanks, a sign and a zero, and
two bytes behind the certificate. -/
def untidy : Form :=
  ⟨[("ServiceSigned", " target,"), ("ServiceSignature", " "),
    ("ServiceCertificateChainSize", " +01"),
    ("ServiceCertificate.1", "\n" ++ Base64.encode (Sample.der ++ [0, 1]) ++ " ")]⟩

theorem decodeForm_untidy :
    Base64.decodeForm ("\n" ++ Base64.encode (Sample.der ++ [0, 1]) ++ " ") =
      .ok (Sample.der ++ [0, 1]) := by
  have hline : "\n".toList.filter (fun c => !Text.isAsciiBlank c) = [] := by decide
  have hspace : " ".toList.filter (fun c => !Text.isAsciiBlank c) = [] := by decide
  rw [← Base64.decodeForm_encode]
  apply Base64.decodeForm_congr
  rw [String.toList_append, String.toList_append, List.filter_append, List.filter_append, hline,
    hspace, List.append_nil, List.nil_append]

theorem ofForm_untidy :
    ofForm untidy = .ok (some ⟨⟨["target"]⟩, [], Sample.leaf, []⟩) := by
  have hlist : SignedList.parse " target," = ⟨["target"]⟩ := by decide +kernel
  have hvalue : Base64.decodeForm " " = .ok [] := by decide +kernel
  have hsize : Decimal.parseCount " +01" = some 1 := by decide +kernel
  have hname : Field.certificate 1 = "ServiceCertificate.1" := by decide +kernel
  have hcertificate : Certificate.ofBase64
      ("\n" ++ Base64.encode (Sample.der ++ [0, 1]) ++ " ") = .ok Sample.leaf := by
    rw [Certificate.ofBase64, decodeForm_untidy]
    decide +kernel
  unfold untidy
  -- neither the text nor the certificate is to be read again wherever they are compared
  generalize "\n" ++ Base64.encode (Sample.der ++ [0, 1]) ++ " " = text at hcertificate ⊢
  generalize Sample.leaf = leaf at hcertificate ⊢
  refine ofForm_eq_some.2 ⟨⟨" target,", rfl, hlist.symm⟩, ⟨" ", rfl, hvalue⟩, ⟨" +01", rfl, hsize⟩,
    fun k c hk => ?_⟩
  obtain ⟨hlt, rfl⟩ := List.getElem?_eq_some_iff.1 hk
  obtain rfl : k = 0 := Nat.lt_one_iff.1 hlt
  refine ⟨text, ?_, hcertificate⟩
  rw [Nat.add_zero, hname]
  simp [Form.value?, List.lookup_cons]

/-- A list that is not tidy, an empty value and two certificates, added to a form that has a third
certificate: the signature is read, and the third certificate is still there. What is read of an
untidy form is read again as it is sent. -/
theorem sample_survives_wire :
    let s : Signature :=
      ⟨SignedList.parse " target,,size%2Clanguage", [], Sample.leaf, [Sample.leaf]⟩
    let form : Form := ⟨[("note", "a&b"), ("ServiceCertificate.3", "c"), ("note", "")]⟩
    let received := Form.ofBody (Utf8.ofString (s.appendTo form).toUrlEncoded)
    ofForm received = .ok (some s) ∧
      received.value? "ServiceCertificate.3" = some "c" ∧
      ofForm untidy = .ok (some ⟨⟨["target"]⟩, [], Sample.leaf, []⟩) ∧
      ofForm (appendTo ⟨⟨["target"]⟩, [], Sample.leaf, []⟩ Form.empty) =
        .ok (some ⟨⟨["target"]⟩, [], Sample.leaf, []⟩) := by
  intro s form received
  obtain ⟨hsent, hreread⟩ := signature_survives_wire
  have hcertificates : ∀ c ∈ s.chain, ∃ der, Certificate.ofDer der = .ok c := by
    intro c hc
    have hleaf : c = Sample.leaf := by simpa [s, chain] using hc
    exact ⟨Sample.der, hleaf ▸ Sample.ofDer_der⟩
  have hfree : ∀ name ∈ fieldNames s.chain.length, form.value? name = none := by
    decide +kernel
  obtain ⟨hread, hother⟩ := hsent " target,,size%2Clanguage" s form rfl hcertificates (by decide)
    hfree _ (Or.inr rfl)
  refine ⟨hread, ?_, ofForm_untidy, hreread _ _ ofForm_untidy⟩
  rw [hother "ServiceCertificate.3" (by decide +kernel)]
  rfl

end sample

end SignPost.Service.Signature
