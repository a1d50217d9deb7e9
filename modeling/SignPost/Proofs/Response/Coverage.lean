import SignPost.Proofs.Response.Honest
import SignPost.Proofs.Service.Trailing

/-!
# What a service signature binds

The list of signed fields comes with the response, and nothing is asked of it: it may be empty
(`exists_unlisted`). The texts of the listed fields are signed as one, without anything between
them, so text may be moved across a joint: from the front of a document behind the certificate in
front of it, which is read as before (`process_shifted`, `exists_shifted`).

`bound_if_listed`: who keeps the signature can do this and no more to what the list names, unless a
second message is found with the digest of the first. What the list does not name is free: whoever
carries the form may put anything readable there.

Proof. Forms with the same fields of service signatures spell the same signature, so its value is
valid for the covered bytes of both, and these have one digest (`digest_eq_of_accepted`). Where the
bytes are the same, the texts are compared from the first one on (`eq_or_prefix_of_flatMap_eq`). If
the forms differ in one listed field only, the bytes differ (`canonicalBytes_ne`); if they differ in
one that is not listed, the bytes are the same, and the check of the second form goes like that of
the first.
-/

namespace SignPost.Response

open Service

/-- The forms have the same fields of service signatures. -/
def SameSignature (form form' : Form) : Prop :=
  ∀ name, Field.isService name = true → form'.value? name = form.value? name

/-- The forms give the same value under each name other than that of the field. -/
def AgreeOff (f : SignableField) (form form' : Form) : Prop :=
  ∀ name, name ≠ f.name → form'.value? name = form.value? name

def Result.field : Result → SignableField
  | .document _ => .signatureResponse
  | .artifact _ => .signatureResponseId

/-- What is returned comes from these two fields. -/
def Result.Shows (result : Result) (f : SignableField) : Prop :=
  f = result.field ∨ f = .signatureCertificate

/-- At the first name whose texts differ, one text is the start of the other: what follows it stands
behind the joint. -/
def Shifted (names : List String) (expected : Expected) (form form' : Form) : Prop :=
  ∃ before name after, names = before ++ name :: after ∧
    (∀ n ∈ before, fieldBytes (expected, form') n = fieldBytes (expected, form) n) ∧
    fieldBytes (expected, form') name ≠ fieldBytes (expected, form) name ∧
    (fieldBytes (expected, form') name <+: fieldBytes (expected, form) name ∨
      fieldBytes (expected, form) name <+: fieldBytes (expected, form') name)

/-- The same bytes are signed in both forms, with the same texts or with text moved across a joint,
or they are others of the same digest. -/
inductive SignedAlike (algorithm : Signing.Algorithm) (names : List String) (expected : Expected)
    (form form' : Form) : Prop
  | same (htexts : ∀ name ∈ names,
      fieldBytes (expected, form') name = fieldBytes (expected, form) name)
  | shifted (hbytes : coveredBytes names expected form' = coveredBytes names expected form)
      (hshifted : Shifted names expected form form')
  | collision (hbytes : coveredBytes names expected form' ≠ coveredBytes names expected form)
      (hdigest : algorithm.digest (coveredBytes names expected form') =
        algorithm.digest (coveredBytes names expected form))

/-- The text of the field is in the signed bytes. A form with the same signature that is accepted
with another text there, or none, and with the same values in the other listed fields has other
bytes of the same digest. -/
def Bound (p : Processor) (expected : Expected) (form : Form) (names : List String)
    (f : SignableField) : Prop :=
  ∃ text, form.value? f.name = some text ∧
    Utf8.ofString text <:+: coveredBytes names expected form ∧
    ∀ form' result c, SameSignature form form' →
      (∀ g : SignableField, g ≠ f → g.name ∈ names → form'.value? g.name = form.value? g.name) →
      (form'.value? f.name).getD "" ≠ text →
      p.process expected form' = .ok (.signed result c) →
        coveredBytes names expected form' ≠ coveredBytes names expected form ∧
        p.verifier.algorithm.digest (coveredBytes names expected form') =
          p.verifier.algorithm.digest (coveredBytes names expected form)

/-- Whatever the field is made to hold, as long as it can be read, is accepted. -/
def Free (p : Processor) (expected : Expected) (form : Form) (f : SignableField) : Prop :=
  ∀ form' result c, AgreeOff f form form' → HasResult form' result → HasCertificate form' c →
    p.process expected form' = .ok (.signed result c)

/-! ## Forms that are compared -/

section compare

variable {form form' : Form} {f : SignableField}

theorem SameSignature.spelled (h : SameSignature form form') {s : Signature} :
    Signature.Spelled form' s ↔ Signature.Spelled form s := by
  rw [← Signature.ofForm_eq_some, ← Signature.ofForm_eq_some, Signature.ofForm_congr h]

theorem AgreeOff.sameSignature (h : AgreeOff f form form') : SameSignature form form' := by
  intro name hname
  apply h
  rintro rfl
  rw [Field.not_isService_name] at hname
  cases hname

theorem AgreeOff.value?_of_ne (h : AgreeOff f form form') {g : SignableField} (hne : g ≠ f) :
    form'.value? g.name = form.value? g.name :=
  h g.name fun heq => hne (name_injective heq)

theorem AgreeOff.status (h : AgreeOff f form form') :
    form'.value? Field.status = form.value? Field.status := by
  apply h
  intro heq
  cases f <;> exact absurd heq (by decide)

end compare

/-! ## The fields of what is returned -/

section returned

variable {anchor : TrustAnchor} {algorithm : Signing.Algorithm} {expected : Expected}
  {form form' : Form} {f : SignableField} {names : List String} {result : Result}
  {c : Certificate} {s : Signature}

theorem exists_text (hresult : HasResult form result) (hc : HasCertificate form c)
    (hf : result.Shows f) : ∃ text, form.value? f.name = some text := by
  rcases hf with rfl | rfl
  · cases result with
    | document content =>
      obtain ⟨-, text, htext, -⟩ := hasResult_document.1 hresult
      exact ⟨text, htext⟩
    | artifact id =>
      obtain ⟨-, hid⟩ := hasResult_artifact.1 hresult
      exact ⟨id, hid⟩
  · obtain ⟨text, htext, -⟩ := hc
    exact ⟨text, htext⟩

theorem textOf_of_shows (hf : result.Shows f) :
    textOf (expected, form) f = (form.value? f.name).getD "" := by
  rcases hf with rfl | rfl
  · cases result <;> rfl
  · rfl

theorem text_infix_coveredBytes {text : String} (hf : result.Shows f) (hmem : f.name ∈ names)
    (htext : form.value? f.name = some text) :
    Utf8.ofString text <:+: coveredBytes names expected form := by
  have hinfix := ofString_infix_canonicalBytes (a := (expected, form)) hmem
  rw [textOf_of_shows hf, htext, canonicalBytes_covered] at hinfix
  exact hinfix

/-- Two texts of a listed field make different bytes. -/
theorem coveredBytes_ne (hf : result.Shows f) (hmem : f.name ∈ names)
    (hother : ∀ g : SignableField, g ≠ f → g.name ∈ names →
      form'.value? g.name = form.value? g.name)
    (hne : (form'.value? f.name).getD "" ≠ (form.value? f.name).getD "") :
    coveredBytes names expected form' ≠ coveredBytes names expected form := by
  rw [← canonicalBytes_covered, ← canonicalBytes_covered]
  apply canonicalBytes_ne hmem
  · rw [textOf_of_shows hf, textOf_of_shows hf]
    exact hne
  · intro g hg hlisted
    exact congrArg (Option.getD · "") (coveredText_congr (hother g hg hlisted))

theorem AgreeOff.relayStateMatches (h : AgreeOff f form form') (hf : result.Shows f) :
    relayStateMatches expected form' = relayStateMatches expected form := by
  have hne : SignableField.relayState ≠ f := by
    rcases hf with rfl | rfl
    · cases result <;> simp [Result.field]
    · simp
  unfold Response.relayStateMatches
  rw [h.value?_of_ne hne]

theorem AgreeOff.vouched (h : AgreeOff f form form')
    (hs : Vouched anchor algorithm expected form s) (hf : f.name ∉ s.signed.names) :
    Vouched anchor algorithm expected form' s := by
  have hbytes : coveredBytes s.signed.names expected form' =
      coveredBytes s.signed.names expected form := by
    apply coveredBytes_congr
    intro g hg
    apply h.value?_of_ne
    rintro rfl
    exact hf hg
  refine ⟨h.sameSignature.spelled.2 hs.spelled, hs.pinned, ?_⟩
  rw [hbytes]
  exact hs.valid

end returned

/-! ## Bound and free fields -/

section binding

variable {anchor : TrustAnchor} {algorithm : Signing.Algorithm} {expected : Expected}
  {form : Form} {f : SignableField} {result : Result} {c : Certificate} {s : Signature}

/-- Of two forms with the same signature that are accepted, what is signed has one digest. -/
theorem digest_eq_of_accepted {form' : Form} {result' : Result} {c' : Certificate}
    (hs : Vouched anchor algorithm expected form s) (hsame : SameSignature form form')
    (h' : Processor.process ⟨⟨some anchor, algorithm⟩⟩ expected form' = .ok (.signed result' c')) :
    algorithm.digest (coveredBytes s.signed.names expected form') =
      algorithm.digest (coveredBytes s.signed.names expected form) := by
  obtain ⟨-, -, -, -, -, s', hs'⟩ := process_pinned.1 h'
  obtain rfl := hs.spelled.unique (hsame.spelled.1 hs'.spelled)
  exact Signing.digest_eq_of_validate hs'.valid hs.valid

theorem signedAlike_of_accepted {form' : Form} {result' : Result} {c' : Certificate}
    (hs : Vouched anchor algorithm expected form s) (hsame : SameSignature form form')
    (h' : Processor.process ⟨⟨some anchor, algorithm⟩⟩ expected form' = .ok (.signed result' c')) :
    SignedAlike algorithm s.signed.names expected form form' := by
  by_cases hbytes : coveredBytes s.signed.names expected form' =
      coveredBytes s.signed.names expected form
  · have hjoined := hbytes
    rw [← canonicalBytes_covered, ← canonicalBytes_covered] at hjoined
    rcases eq_or_prefix_of_flatMap_eq hjoined with htexts | hshifted
    · exact .same htexts
    · exact .shifted hbytes hshifted
  · exact .collision hbytes (digest_eq_of_accepted hs hsame h')

theorem bound_of_mem (hresult : HasResult form result) (hc : HasCertificate form c)
    (hs : Vouched anchor algorithm expected form s) (hf : result.Shows f)
    (hmem : f.name ∈ s.signed.names) :
    Bound ⟨⟨some anchor, algorithm⟩⟩ expected form s.signed.names f := by
  obtain ⟨text, htext⟩ := exists_text hresult hc hf
  refine ⟨text, htext, text_infix_coveredBytes hf hmem htext, ?_⟩
  intro form' result' c' hsame hother hne h'
  constructor
  · apply coveredBytes_ne hf hmem hother
    rw [htext]
    exact hne
  · exact digest_eq_of_accepted hs hsame h'

theorem free_of_not_mem
    (h : Processor.process ⟨⟨some anchor, algorithm⟩⟩ expected form = .ok (.signed result c))
    (hs : Vouched anchor algorithm expected form s) (hf : result.Shows f)
    (hmem : f.name ∉ s.signed.names) :
    Free ⟨⟨some anchor, algorithm⟩⟩ expected form f := by
  obtain ⟨hstatus, -, -, hrelay, hcontext, -⟩ := process_pinned.1 h
  intro form' result' c' hagree hresult' hc'
  refine process_pinned.2 ⟨?_, hresult', hc', ?_, hcontext, s, hagree.vouched hs hmem⟩
  · rw [hagree.status, hstatus]
  · rw [hagree.relayStateMatches hf, hrelay]

/-- A response that is accepted has a list and a signature over the texts that the list names. With
the same signature no form is accepted but one in which the same is signed, up to text that moves
across a joint, or a collision. Of what is returned, the signature binds the fields that its list
names and no others. -/
theorem bound_if_listed
    (h : Processor.process ⟨⟨some anchor, algorithm⟩⟩ expected form = .ok (.signed result c)) :
    ∃ list s, form.value? "ServiceSigned" = some list ∧ s.signed = SignedList.parse list ∧
      Vouched anchor algorithm expected form s ∧
      (∀ form' result' c', SameSignature form form' →
        Processor.process ⟨⟨some anchor, algorithm⟩⟩ expected form' = .ok (.signed result' c') →
          SignedAlike algorithm s.signed.names expected form form') ∧
      ∀ f, result.Shows f →
        (f.name ∈ s.signed.names →
          Bound ⟨⟨some anchor, algorithm⟩⟩ expected form s.signed.names f) ∧
        (f.name ∉ s.signed.names → Free ⟨⟨some anchor, algorithm⟩⟩ expected form f) := by
  obtain ⟨-, hresult, hc, -, -, s, hs⟩ := process_pinned.1 h
  obtain ⟨list, hlist, hsigned⟩ := hs.spelled.signed
  refine ⟨list, s, hlist, hsigned, hs, fun form' result' c' => signedAlike_of_accepted hs,
    fun f hf => ⟨bound_of_mem hresult hc hs hf, free_of_not_mem h hs hf⟩⟩

end binding

/-! ## Text that moves across a joint -/

section shifted

variable {check : Url.Check} {q : Request} {expected : Expected} {der front rest : Bytes}
  {c leaf : Certificate} {issuers : List Certificate} {relayState : Option String}
  {signer : Signing.Signer} {value : Bytes}

/-- A list on which the document stands behind the certificate. -/
def certificateFirst : List String := ["SignatureCertificate", "SignatureResponse"]

theorem coveredBytes_certificateFirst (content : Bytes) :
    coveredBytes certificateFirst expected (answer (.document content) der relayState) =
      Base64.symbols der ++ Base64.symbols content := by
  have hcertificate : (answer (.document content) der relayState).value? "SignatureCertificate" =
      some (Base64.encode der) := value?_answer_name .signatureCertificate
  have hdocument : (answer (.document content) der relayState).value? "SignatureResponse" =
      some (Base64.encode content) := value?_answer_name .signatureResponse
  simp only [coveredBytes, certificateFirst, List.flatMap_cons, List.flatMap_nil, coveredText,
    hcertificate, hdocument, Base64.ofString_encode, List.append_nil]

/-- Full groups at the front of a document may as well stand behind the certificate. -/
theorem coveredBytes_shifted (hder : der.length % 3 = 0) (hfront : front.length % 3 = 0) :
    coveredBytes certificateFirst expected (answer (.document rest) (der ++ front) relayState) =
      coveredBytes certificateFirst expected
        (answer (.document (front ++ rest)) der relayState) := by
  rw [coveredBytes_certificateFirst, coveredBytes_certificateFirst, Base64.symbols_append hder,
    Base64.symbols_append hfront, List.append_assoc]

/-- What a service signed for a document is accepted for the rest of the document, if the front
comes behind the certificate; the certificate is read as before. -/
theorem process_shifted (hq : q.validate check = .ok ()) (hder : Certificate.ofDer der = .ok c)
    (hrelay : ∀ state, q.relayState = some state → relayState = some state)
    (hsigner : signer.Presents leaf issuers) (hlength : der.length % 3 = 0)
    (hfront : front.length % 3 = 0)
    (hvalue : signer.sign (coveredBytes certificateFirst (Expected.ofRequest q)
      (answer (.document (front ++ rest)) der relayState)) = .ok value) :
    Processor.process ⟨⟨some (TrustAnchor.ofCertificate leaf), signer.algorithm⟩⟩
      (Expected.ofRequest q) (Signature.appendTo ⟨⟨certificateFirst⟩, value, leaf, issuers⟩
        (answer (.document rest) (der ++ front) relayState)) = .ok (.signed (.document rest) c) := by
  have hparse :
      SignedList.parse "SignatureCertificate,SignatureResponse" = ⟨certificateFirst⟩ := by
    decide +kernel
  rw [← coveredBytes_shifted hlength hfront] at hvalue
  rw [← hparse]
  refine process_answer hq (Certificate.ofDer_append_input hder front) hrelay hsigner _ ?_
  rw [hparse]
  exact hvalue

end shifted

section sample

open Signing

/-- A document of two bytes, signed over a list of names with the sample key. -/
theorem exists_accepted (names : String)
    (hsigns : ((Sample.signer .rs1).sign (coveredBytes (SignedList.parse names).names
      (Expected.ofRequest Request.sample)
      (answer (.document [0x68, 0x69]) Sample.der (some "a&b=c")))).isOk = true) :
    ∃ form, form.value? "ServiceSigned" = some (SignedList.parse names).render ∧
      Processor.process ⟨⟨some (TrustAnchor.ofCertificate Sample.leaf), .rs1⟩⟩
        (Expected.ofRequest Request.sample) form =
          .ok (.signed (.document [0x68, 0x69]) Sample.leaf) := by
  obtain ⟨value, hvalue⟩ := Sample.exists_signature hsigns
  have haccepted := process_answer Request.validate_sample Sample.ofDer_der (fun _ h => h)
    (Sample.presents .rs1) names hvalue
  refine ⟨_, ?_, haccepted⟩
  exact (Signature.value?_appendTo unsigned_answer Field.isService_serviceSigned).trans
    Signature.lookup_serviceSigned

/-- A document that is listed is bound, and the certificate that is not listed is free. -/
theorem sample_binds_document :
    ∃ form s, Processor.process ⟨⟨some (TrustAnchor.ofCertificate Sample.leaf), .rs1⟩⟩
        (Expected.ofRequest Request.sample) form =
          .ok (.signed (.document [0x68, 0x69]) Sample.leaf) ∧
      Vouched (TrustAnchor.ofCertificate Sample.leaf) .rs1 (Expected.ofRequest Request.sample)
        form s ∧
      (∀ form' result' c', SameSignature form form' →
        Processor.process ⟨⟨some (TrustAnchor.ofCertificate Sample.leaf), .rs1⟩⟩
          (Expected.ofRequest Request.sample) form' = .ok (.signed result' c') →
            SignedAlike .rs1 ["SignatureResponse"] (Expected.ofRequest Request.sample) form
              form') ∧
      Bound ⟨⟨some (TrustAnchor.ofCertificate Sample.leaf), .rs1⟩⟩
        (Expected.ofRequest Request.sample) form ["SignatureResponse"] .signatureResponse ∧
      Free ⟨⟨some (TrustAnchor.ofCertificate Sample.leaf), .rs1⟩⟩
        (Expected.ofRequest Request.sample) form .signatureCertificate := by
  have hparse : SignedList.parse "SignatureResponse" = ⟨["SignatureResponse"]⟩ := by
    decide +kernel
  have hrender : SignedList.render ⟨["SignatureResponse"]⟩ = "SignatureResponse" := by
    decide +kernel
  obtain ⟨form, hlist, haccepted⟩ := exists_accepted "SignatureResponse" (by decide +kernel)
  obtain ⟨list, s, hlist', hsigned, hs, halike, hfields⟩ := bound_if_listed haccepted
  rw [hlist, hparse, hrender] at hlist'
  obtain rfl := Option.some.inj hlist'
  have hnames : s.signed.names = ["SignatureResponse"] := by rw [hsigned, hparse]
  rw [hnames] at halike hfields
  refine ⟨form, s, haccepted, hs, halike, (hfields _ (Or.inl rfl)).1 (by decide), ?_⟩
  exact (hfields _ (Or.inr rfl)).2 (by decide)

/-- A list need not name what is returned: here it is empty. -/
theorem exists_unlisted :
    ∃ form, Processor.process ⟨⟨some (TrustAnchor.ofCertificate Sample.leaf), .rs1⟩⟩
        (Expected.ofRequest Request.sample) form =
          .ok (.signed (.document [0x68, 0x69]) Sample.leaf) ∧
      form.value? "ServiceSigned" = some "" := by
  have hparse : SignedList.parse "" = ⟨[]⟩ := by decide +kernel
  have hrender : SignedList.render ⟨[]⟩ = "" := by decide +kernel
  obtain ⟨form, hlist, haccepted⟩ := exists_accepted "" (by decide +kernel)
  rw [hparse, hrender] at hlist
  exact ⟨form, haccepted, hlist⟩

/-- All that is returned is listed, and still another document is accepted with the same signature
over the same bytes: the front of `hi you` stands behind the certificate. -/
theorem exists_shifted :
    ∃ form form', Processor.process ⟨⟨some (TrustAnchor.ofCertificate Sample.leaf), .rs1⟩⟩
        (Expected.ofRequest Request.sample) form =
          .ok (.signed (.document (Utf8.ofString "hi you")) Sample.leaf) ∧
      Processor.process ⟨⟨some (TrustAnchor.ofCertificate Sample.leaf), .rs1⟩⟩
        (Expected.ofRequest Request.sample) form' =
          .ok (.signed (.document (Utf8.ofString "you")) Sample.leaf) ∧
      SameSignature form form' ∧
      form.value? "ServiceSigned" = some (SignedList.render ⟨certificateFirst⟩) ∧
      coveredBytes certificateFirst (Expected.ofRequest Request.sample) form' =
        coveredBytes certificateFirst (Expected.ofRequest Request.sample) form := by
  have hlength : Sample.der.length % 3 = 0 := by decide +kernel
  have hfront : Utf8.ofString "hi you" = Utf8.ofString "hi " ++ Utf8.ofString "you" := by
    decide +kernel
  have hsigns : ((Sample.signer .rs1).sign (coveredBytes certificateFirst
      (Expected.ofRequest Request.sample) (answer
        (.document (Utf8.ofString "hi " ++ Utf8.ofString "you")) Sample.der
        (some "a&b=c")))).isOk = true := by
    rw [coveredBytes_certificateFirst]
    decide +kernel
  obtain ⟨value, hvalue⟩ := Sample.exists_signature hsigns
  have hmoved := process_shifted Request.validate_sample Sample.ofDer_der (fun _ h => h)
    (Sample.presents .rs1) hlength (by decide +kernel) hvalue
  have hparse : SignedList.parse (SignedList.render ⟨certificateFirst⟩) = ⟨certificateFirst⟩ := by
    decide +kernel
  rw [← hfront] at hvalue
  have hstays := process_answer Request.validate_sample Sample.ofDer_der (fun _ h => h)
    (Sample.presents .rs1) (SignedList.render ⟨certificateFirst⟩) (by rw [hparse]; exact hvalue)
  rw [hparse] at hstays
  refine ⟨_, _, hstays, hmoved, fun name hname => ?_, ?_, ?_⟩
  · rw [Signature.value?_appendTo unsigned_answer hname,
      Signature.value?_appendTo unsigned_answer hname]
  · exact (Signature.value?_appendTo unsigned_answer Field.isService_serviceSigned).trans
      Signature.lookup_serviceSigned
  · rw [coveredBytes_appendTo, coveredBytes_appendTo, hfront]
    exact coveredBytes_shifted hlength (by decide +kernel)

/-- A response is accepted whose list does not name what is returned; and where it names all of it,
this is not all that is accepted with the same signature over the same bytes. -/
theorem accepted_unlisted_and_shifted :
    (¬ ∀ (anchor : TrustAnchor) (algorithm : Algorithm) (expected : Expected) (form : Form)
      (result : Result) (c : Certificate) (list : String),
      Processor.process ⟨⟨some anchor, algorithm⟩⟩ expected form = .ok (.signed result c) →
        form.value? "ServiceSigned" = some list →
          ∀ f, result.Shows f → f.name ∈ (SignedList.parse list).names) ∧
    ¬ ∀ (anchor : TrustAnchor) (algorithm : Algorithm) (expected : Expected) (form form' : Form)
      (result result' : Result) (c c' : Certificate) (list : String),
      Processor.process ⟨⟨some anchor, algorithm⟩⟩ expected form = .ok (.signed result c) →
        Processor.process ⟨⟨some anchor, algorithm⟩⟩ expected form' = .ok (.signed result' c') →
          SameSignature form form' → form.value? "ServiceSigned" = some list →
            (∀ f, result.Shows f → f.name ∈ (SignedList.parse list).names) →
              coveredBytes (SignedList.parse list).names expected form' =
                coveredBytes (SignedList.parse list).names expected form → result' = result := by
  constructor
  · intro hall
    obtain ⟨form, haccepted, hlist⟩ := exists_unlisted
    have hmem := hall _ _ _ form _ _ "" haccepted hlist .signatureCertificate (Or.inr rfl)
    exact absurd hmem (by decide +kernel)
  · intro hall
    obtain ⟨form, form', haccepted, haccepted', hsame, hlist, hbytes⟩ := exists_shifted
    have hnames : (SignedList.parse (SignedList.render ⟨certificateFirst⟩)).names =
        certificateFirst := by
      decide +kernel
    have hlisted : ∀ f, (Result.document (Utf8.ofString "hi you")).Shows f →
        f.name ∈ (SignedList.parse (SignedList.render ⟨certificateFirst⟩)).names := by
      rw [hnames]
      rintro f (rfl | rfl) <;> decide
    have hdocument := hall _ _ _ form form' _ _ _ _ _ haccepted haccepted' hsame hlist hlisted
      (by rw [hnames]; exact hbytes)
    exact absurd hdocument (by decide +kernel)

end sample

end SignPost.Response
