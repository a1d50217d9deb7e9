import SignPost.Proofs.Service.Wire

/-!
# Bytes behind a certificate

`trailing_bytes_dropped`: what follows a certificate is no part of it. The same certificate is read
whatever follows, so neither its fingerprint nor its key nor the anchor made from it can be moved by
bytes that are added on the wire, and a form with such bytes has the same service signature.
-/

namespace SignPost

namespace Certificate

variable {input : Bytes} {c : Certificate}

theorem ofDer_append_input (h : ofDer input = .ok c) (tail : Bytes) :
    ofDer (input ++ tail) = .ok c := by
  obtain ⟨-, rest, rfl⟩ := der_prefix_of_ofDer? (ofDer?_of_ofDer h)
  rw [List.append_assoc]
  exact ofDer_append h (rest ++ tail)

/-- A certificate is determined by its bytes. -/
theorem eq_of_der_eq {input' : Bytes} {c' : Certificate} (h : ofDer input = .ok c)
    (h' : ofDer input' = .ok c') (hder : c'.der = c.der) : c' = c := by
  have hread := ofDer_append h []
  rw [← hder, ofDer_append h' []] at hread
  exact Except.ok.inj hread

theorem isMatch_ofCertificate (c : Certificate) :
    (TrustAnchor.ofCertificate c).isMatch c.der = true := by
  rw [TrustAnchor.isMatch, decide_eq_true_eq]
  rfl

end Certificate

namespace Service.Signature

/-- Two forms that differ in the bytes behind one certificate: the second has more of them. -/
structure Lengthened (form form' : Form) (index : Nat) (der tail : Bytes) : Prop where
  before : ∃ text, form.value? (Field.certificate index) = some text ∧
    Base64.decodeForm text = .ok der
  after : ∃ text, form'.value? (Field.certificate index) = some text ∧
    Base64.decodeForm text = .ok (der ++ tail)
  others : ∀ name, name ≠ Field.certificate index → form'.value? name = form.value? name

variable {form form' : Form} {index : Nat} {der tail : Bytes} {c : Certificate}

theorem Lengthened.readCertificate_eq (h : Lengthened form form' index der tail)
    (hc : Certificate.ofDer der = .ok c) :
    readCertificate form index = .ok c ∧ readCertificate form' index = .ok c := by
  obtain ⟨text, htext, hdecode⟩ := h.before
  obtain ⟨text', htext', hdecode'⟩ := h.after
  constructor
  · refine readCertificate_eq_ok.2 ⟨text, htext, ?_⟩
    rw [Certificate.ofBase64, hdecode]
    exact hc
  · refine readCertificate_eq_ok.2 ⟨text', htext', ?_⟩
    rw [Certificate.ofBase64, hdecode']
    exact Certificate.ofDer_append_input hc tail

/-- Bytes that are added behind a certificate do not change the signature of a form. -/
theorem Lengthened.ofForm_eq (h : Lengthened form form' index der tail)
    (hc : Certificate.ofDer der = .ok c) : ofForm form' = ofForm form := by
  have hother : ∀ {name : String}, name.toList[18]? ≠ some '.' →
      form'.value? name = form.value? name :=
    fun hname => h.others _ (Field.certificate_ne hname).symm
  have hsigned : form'.value? Field.serviceSigned = form.value? Field.serviceSigned :=
    hother (by decide)
  have hvalue : readValue form' = readValue form := by
    rw [readValue, readValue, hother (by decide)]
  have hsize : readChainSize form' = readChainSize form := by
    rw [readChainSize, readChainSize, hother (by decide)]
  have hcertificate : ∀ i, readCertificate form' i = readCertificate form i := by
    intro i
    by_cases hi : i = index
    · obtain ⟨hbefore, hafter⟩ := h.readCertificate_eq hc
      rw [hi, hbefore, hafter]
    · have hname : Field.certificate i ≠ Field.certificate index :=
        fun heq => hi (Field.certificate_injective heq)
      rw [readCertificate, readCertificate, h.others _ hname]
  have hread := readSigned_congr hvalue hsize fun _ _ i _ _ => hcertificate i
  rw [ofForm, ofForm, hsigned]
  simp only [hread]

/-- The certificate that made a signature is the first one of the form. -/
theorem leaf_of_ofForm {s : Signature} (h : ofForm form = .ok (some s)) :
    readCertificate form 1 = .ok s.leaf :=
  readCertificate_eq_ok.2 ((ofForm_eq_some.1 h).certificates 0 s.leaf rfl)

end Service.Signature

namespace Certificate

open Service.Signature

/-- The bytes of a certificate are a start of what it was read from, and the certificate is read
from them whatever follows: with the same attributes, the same fingerprint and key, and an anchor
that pins it. The service signature of a form is the same if bytes are added behind its
certificate. -/
theorem trailing_bytes_dropped {input : Bytes} {c : Certificate} (h : ofDer input = .ok c) :
    (c.der ≠ [] ∧ c.der <+: input) ∧
    (∀ tail, ofDer (c.der ++ tail) = .ok c) ∧
    ofBase64 c.toBase64 = .ok c ∧
    (∀ input' c', ofDer input' = .ok c' → c'.der = c.der → c' = c) ∧
    (∀ tail form form', Lengthened form form' 1 input tail →
      ofForm form' = ofForm form ∧ ∀ s, ofForm form' = .ok (some s) → s.leaf = c) ∧
    ∀ tail c', ofDer (c.der ++ tail) = .ok c' →
      c'.fingerprint = c.fingerprint ∧ c'.publicKey = c.publicKey ∧
        (TrustAnchor.ofCertificate c').isMatch c.der = true := by
  refine ⟨der_prefix_of_ofDer? (ofDer?_of_ofDer h), ofDer_append h, ofBase64_toBase64 h,
    fun input' c' h' hder => eq_of_der_eq h h' hder, ?_, ?_⟩
  · intro tail form form' hforms
    refine ⟨hforms.ofForm_eq h, fun s hs => ?_⟩
    have hleaf := leaf_of_ofForm hs
    rw [(hforms.readCertificate_eq h).2] at hleaf
    exact (Except.ok.inj hleaf).symm
  · intro tail c' h'
    obtain rfl : c' = c := by
      rw [ofDer_append h tail] at h'
      exact (Except.ok.inj h').symm
    exact ⟨rfl, rfl, isMatch_ofCertificate c'⟩

section sample

open Signing

/-- The form of `untidy` with one byte less behind its certificate. -/
def lessUntidy : Form :=
  ⟨[("ServiceSigned", " target,"), ("ServiceSignature", " "),
    ("ServiceCertificateChainSize", " +01"),
    ("ServiceCertificate.1", Base64.encode (Sample.der ++ [0]))]⟩

theorem lengthened_untidy : Lengthened lessUntidy untidy 1 (Sample.der ++ [0]) [1] := by
  have hname : Field.certificate 1 = "ServiceCertificate.1" := by decide +kernel
  refine ⟨⟨Base64.encode (Sample.der ++ [0]), ?_, Base64.decodeForm_encode _⟩,
    ⟨"\n" ++ Base64.encode (Sample.der ++ [0, 1]) ++ " ", ?_, ?_⟩, fun name hne => ?_⟩
  · rw [hname]
    rfl
  · rw [hname]
    rfl
  · rw [decodeForm_untidy, List.append_assoc]
    rfl
  · rw [hname] at hne
    have hother : (name == "ServiceCertificate.1") = false := beq_eq_false_iff_ne.2 hne
    simp only [lessUntidy, untidy, Form.value?, List.lookup_cons, hother]

/-- A certificate with one byte behind it on the wire, and then with two. -/
theorem sample_trailing_bytes_dropped :
    Sample.leaf.der <+: Sample.der ++ [0] ∧
      ofDer (Sample.leaf.der ++ [0x30, 0x80]) = .ok Sample.leaf ∧
      ofForm untidy = ofForm lessUntidy ∧
      (TrustAnchor.ofCertificate Sample.leaf).isMatch Sample.leaf.der = true := by
  have hread : ofDer (Sample.der ++ [0]) = .ok Sample.leaf :=
    ofDer_append_input Sample.ofDer_der [0]
  obtain ⟨⟨-, hstart⟩, hagain, -, -, hwire, hanchor⟩ := trailing_bytes_dropped hread
  obtain ⟨hform, -⟩ := hwire [1] lessUntidy untidy lengthened_untidy
  obtain ⟨-, -, hmatch⟩ := hanchor [] Sample.leaf (hagain [])
  exact ⟨hstart, hagain [0x30, 0x80], hform, hmatch⟩

end sample

end Certificate

end SignPost
