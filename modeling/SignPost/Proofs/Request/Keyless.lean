import SignPost.Proofs.Request.Fields
import SignPost.Proofs.Signing.Signer

/-!
# Requests that are sent unsigned

A request is sent unsigned where there is no key, and only there. `sign_eq_missingKey`: of all that
can fail while a request is signed, nothing else is reported as a missing key, whatever the signer
answers. So what was to be signed is sent signed, with what the signer gave for this request
(`toForm_of_key`), or not at all.
-/

namespace SignPost.RequestSigner

open Service Signing

/-- There is no key: either no signer, or one without certificates. -/
def Keyless (s : RequestSigner) : Prop :=
  s.signer = none ∨ ∃ signer, s.signer = some signer ∧ signer.chain = .ok []

/-- The signature is what a signer gave for a request: its value is what the signer gave for the
signed bytes of the request, and its certificates are those of the signer, one by one. -/
structure Made (signer : Signing.Signer) (q : Request) (signature : Signature) : Prop where
  signed : signature.signed.names = q.signedNames
  value : signer.sign (canonicalBytes q.signedNames q) = .ok signature.value
  chain : ∃ ders, signer.chain = .ok ders ∧ Reads ders signature.chain

section

variable {check : Url.Check} {s : RequestSigner} {q : Request} {f : Form} {signature : Signature}
  {signer : Signing.Signer} {ders : List Bytes}

theorem signWith_eq_ok :
    signWith check signer ders q = .ok signature ↔
      q.validate check = .ok () ∧ signature.signed.names = q.signedNames ∧
        signer.sign (canonicalBytes q.signedNames q) = .ok signature.value ∧
          Reads ders signature.chain := by
  unfold signWith
  constructor
  · intro h
    split at h
    · cases h
    next hvalid =>
      split at h
      · cases h
      next value hvalue =>
        split at h
        · cases h
        next certificates hread =>
          cases certificates with
          | nil => cases h
          | cons leaf issuers =>
            obtain rfl := Except.ok.inj h
            exact ⟨hvalid, rfl, hvalue, reads_of_readChain hread⟩
  · rintro ⟨hvalid, hsigned, hvalue, hreads⟩
    obtain ⟨⟨names⟩, value, leaf, issuers⟩ := signature
    obtain rfl : names = q.signedNames := hsigned
    rw [hvalid, hvalue, readChain_request hreads]
    rfl

/-- None of the failures of signing is a missing key. -/
theorem signWith_ne_missingKey : signWith check signer ders q ≠ .error .missingKeyMaterial := by
  unfold signWith
  intro h
  split at h
  next e hvalid =>
    obtain rfl := Except.error.inj h
    exact Request.validate_ne_missingKey hvalid
  · split at h
    · cases h
    · split at h
      · cases h
      · split at h <;> cases h

theorem sign_of_chain (hsigner : s.signer = some signer) (hchain : signer.chain = .ok ders)
    (hders : ders ≠ []) : s.sign check q = signWith check signer ders q := by
  cases ders with
  | nil => exact absurd rfl hders
  | cons der ders => simp only [sign, hsigner, hchain]

theorem not_keyless_of_chain (hchain : signer.chain = .ok ders) (hders : ders ≠ []) :
    ¬Keyless ⟨some signer⟩ := by
  rintro (hnone | ⟨signer', hsigner', hempty⟩)
  · cases hnone
  · obtain rfl := Option.some.inj hsigner'
    rw [hchain] at hempty
    exact hders (Except.ok.inj hempty)

theorem sign_eq_ok :
    s.sign check q = .ok signature ↔
      q.validate check = .ok () ∧ ∃ signer, s.signer = some signer ∧ Made signer q signature := by
  constructor
  · intro h
    unfold sign at h
    split at h
    · cases h
    next signer hsigner =>
      split at h
      · cases h
      · cases h
      next ders _ hchain =>
        obtain ⟨hvalid, hsigned, hvalue, hreads⟩ := signWith_eq_ok.1 h
        exact ⟨hvalid, signer, hsigner, hsigned, hvalue, ders, hchain, hreads⟩
  · rintro ⟨hvalid, signer, hsigner, hsigned, hvalue, ders, hchain, hreads⟩
    have hders : ders ≠ [] := by
      rintro rfl
      cases hreads
    rw [sign_of_chain hsigner hchain hders]
    exact signWith_eq_ok.2 ⟨hvalid, hsigned, hvalue, hreads⟩

/-- A missing key is reported where there is none and at no other failure. -/
theorem sign_eq_missingKey : s.sign check q = .error .missingKeyMaterial ↔ s.Keyless := by
  constructor
  · intro h
    unfold sign at h
    split at h
    next hnone => exact Or.inl hnone
    next signer hsigner =>
      split at h
      · cases h
      next hchain => exact Or.inr ⟨signer, hsigner, hchain⟩
      · exact absurd h signWith_ne_missingKey
  · rintro (hnone | ⟨signer, hsigner, hchain⟩)
    · simp only [sign, hnone]
    · simp only [sign, hsigner, hchain]

theorem toForm_of_keyless (h : s.Keyless) : s.toForm check q = q.toForm check none := by
  unfold toForm
  rw [sign_eq_missingKey.2 h]

/-- Where there is a key, what is sent is what was signed. -/
theorem toForm_of_key (h : ¬s.Keyless) :
    s.toForm check q = .ok f ↔
      ∃ signature, s.sign check q = .ok signature ∧ q.toForm check (some signature) = .ok f := by
  unfold toForm
  cases hsign : s.sign check q with
  | ok signature => simp
  | error e =>
    have hne : e ≠ .missingKeyMaterial := by
      rintro rfl
      exact h (sign_eq_missingKey.1 hsign)
    cases e <;> simp at hne ⊢

/-- Something that a signed request needs is not to be had: the certificates of the signer, a
request that can be sent, the signature, or one of the certificates in a form that can be read. -/
inductive Fails (check : Url.Check) (signer : Signing.Signer) (q : Request) : Prop where
  | chain {e : SignerError} (h : signer.chain = .error e)
  | request {e : Error} (h : q.validate check = .error e)
  | value {e : SignerError} (h : signer.sign (canonicalBytes q.signedNames q) = .error e)
  | certificate {ders : List Bytes} {der : Bytes} {e : Certificate.Error}
      (hchain : signer.chain = .ok ders) (hder : der ∈ ders) (h : Certificate.ofDer der = .error e)

theorem not_fails_of_made (hvalid : q.validate check = .ok ()) (hmade : Made signer q signature) :
    ¬Fails check signer q := by
  obtain ⟨ders, hchain, hreads⟩ := hmade.chain
  intro hfails
  cases hfails with
  | chain h =>
    rw [hchain] at h
    cases h
  | request h =>
    rw [hvalid] at h
    cases h
  | value h =>
    rw [hmade.value] at h
    cases h
  | certificate hchain' hder h =>
    rw [hchain] at hchain'
    obtain rfl := Except.ok.inj hchain'
    obtain ⟨c, hc⟩ := hreads.exists_certificate hder
    rw [hc] at h
    cases h

theorem validate_of_toForm (h : s.toForm check q = .ok f) : q.validate check = .ok () := by
  by_cases hkey : s.Keyless
  · rw [toForm_of_keyless hkey] at h
    exact (Request.toForm_eq_ok.1 h).1
  · obtain ⟨signature, -, hform⟩ := (toForm_of_key hkey).1 h
    exact (Request.toForm_eq_ok.1 hform).1

theorem exists_error_of_not_ok (h : ∀ f, s.toForm check q ≠ .ok f) :
    ∃ e, s.toForm check q = .error e := by
  cases hform : s.toForm check q with
  | ok f => exact absurd hform (h f)
  | error e => exact ⟨e, rfl⟩

/-- The fields of a request are no signature. -/
theorem ofForm_fields : Signature.ofForm q.fields = .ok none :=
  Signature.ofForm_eq_none.2 (Request.unsigned_fields _ Field.isService_serviceSigned)

/-- With the fields of a signature behind them a form has one, well-formed or not. -/
theorem ofForm_appendTo_ne_none : Signature.ofForm (signature.appendTo q.fields) ≠ .ok none := by
  intro h
  have hnone := Signature.ofForm_eq_none.1 h
  rw [Signature.value?_appendTo Request.unsigned_fields Field.isService_serviceSigned,
    Signature.lookup_serviceSigned] at hnone
  cases hnone

/-- A request is sent unsigned where there is no key, and only there. Otherwise it is sent with the
fields of a signature which the signer made for it behind its own fields, if all that this needs is
to be had, and else not at all. Nothing is sent for a request that has none or both of document and
artifact, or a target that is no address, whatever tells that it is none. -/
theorem unsigned_only_without_key (check : Url.Check) (s : RequestSigner) (q : Request) :
    (s.Keyless → s.toForm check q = q.toForm check none) ∧
    (¬s.Keyless → ∀ f, s.toForm check q = .ok f ↔
      ∃ signer signature unsigned, s.signer = some signer ∧ Made signer q signature ∧
        q.toForm check none = .ok unsigned ∧ f.fields = unsigned.fields ++ signature.fields) ∧
    (∀ f, s.toForm check q = .ok f → (Signature.ofForm f = .ok none ↔ s.Keyless)) ∧
    (∀ signer, s.signer = some signer → ¬s.Keyless → Fails check signer q →
      ∃ e, s.toForm check q = .error e) ∧
    (q.document.isSome = q.artifact.isSome ∨ (∃ e, check q.target = .error e) →
      ∃ e, s.toForm check q = .error e) := by
  refine ⟨toForm_of_keyless, fun hkey f => ⟨fun h => ?_, ?_⟩, fun f h => ?_,
    fun signer hsigner hkey hfails => ?_, fun hbad => ?_⟩
  · obtain ⟨signature, hsign, hform⟩ := (toForm_of_key hkey).1 h
    obtain ⟨hvalid, signer, hsigner, hmade⟩ := sign_eq_ok.1 hsign
    obtain ⟨-, rfl⟩ := Request.toForm_eq_ok.1 hform
    exact ⟨signer, signature, q.fields, hsigner, hmade, Request.toForm_eq_ok.2 ⟨hvalid, rfl⟩, rfl⟩
  · rintro ⟨signer, signature, unsigned, hsigner, hmade, hunsigned, hfields⟩
    obtain ⟨hvalid, rfl⟩ := Request.toForm_eq_ok.1 hunsigned
    have hf : f = signature.appendTo q.fields := congrArg Form.mk hfields
    exact (toForm_of_key hkey).2 ⟨signature, sign_eq_ok.2 ⟨hvalid, signer, hsigner, hmade⟩,
      Request.toForm_eq_ok.2 ⟨hvalid, hf⟩⟩
  · by_cases hkey : s.Keyless
    · rw [toForm_of_keyless hkey] at h
      obtain ⟨-, rfl⟩ := Request.toForm_eq_ok.1 h
      exact iff_of_true ofForm_fields hkey
    · obtain ⟨signature, -, hform⟩ := (toForm_of_key hkey).1 h
      obtain ⟨-, rfl⟩ := Request.toForm_eq_ok.1 hform
      exact iff_of_false ofForm_appendTo_ne_none hkey
  · apply exists_error_of_not_ok
    intro f h
    obtain ⟨signature, hsign, -⟩ := (toForm_of_key hkey).1 h
    obtain ⟨hvalid, signer', hsigner', hmade⟩ := sign_eq_ok.1 hsign
    rw [hsigner] at hsigner'
    obtain rfl := Option.some.inj hsigner'
    exact not_fails_of_made hvalid hmade hfails
  · apply exists_error_of_not_ok
    intro f h
    obtain ⟨hpayload, hurl⟩ := Request.validate_eq_ok.1 (validate_of_toForm h)
    rcases hbad with hsame | ⟨e, herror⟩
    · exact hpayload hsame
    · rw [hurl] at herror
      cases herror

end

section sample

/-- A signer that gives the same bytes for every message. -/
def constantSigner : Signing.Signer :=
  ⟨.rs1, .ok [Sample.der], fun _ => .ok [1, 2, 3]⟩

def constantSignature (leaf : Certificate) : Signature :=
  ⟨⟨Request.sample.signedNames⟩, [1, 2, 3], leaf, []⟩

theorem made_constantSignature {leaf : Certificate} (h : Certificate.ofDer Sample.der = .ok leaf) :
    Made constantSigner Request.sample (constantSignature leaf) :=
  ⟨rfl, rfl, [Sample.der], rfl, List.Forall₂.cons h List.Forall₂.nil⟩

/-- A signer that has a certificate and does not sign. -/
def brokenSigner : Signing.Signer :=
  { constantSigner with sign := fun _ => .error (.failed "no token") }

/-- With a signature that nothing verifies the request is sent signed, with a signer that fails it
is not sent, without certificates it is sent unsigned, and with two payloads not at all. -/
theorem sample_unsigned_only_without_key :
    (¬Keyless ⟨some constantSigner⟩ ∧
      toForm Url.check ⟨some constantSigner⟩ Request.sample =
        .ok ((constantSignature Sample.leaf).appendTo Request.sample.fields) ∧
      Signature.ofForm ((constantSignature Sample.leaf).appendTo Request.sample.fields) ≠
        .ok none) ∧
    (¬Keyless ⟨some brokenSigner⟩ ∧ Fails Url.check brokenSigner Request.sample ∧
      ∃ e, toForm Url.check ⟨some brokenSigner⟩ Request.sample = .error e) ∧
    toForm Url.check ⟨some { constantSigner with chain := .ok [] }⟩ Request.sample =
      Request.sample.toForm Url.check none ∧
    ∃ e, toForm Url.check ⟨none⟩ { Request.sample with artifact := some "a" } = .error e := by
  have hkey : ¬Keyless ⟨some constantSigner⟩ := not_keyless_of_chain rfl (by decide)
  have hbroken : ¬Keyless ⟨some brokenSigner⟩ := not_keyless_of_chain rfl (by decide)
  have hfails : Fails Url.check brokenSigner Request.sample := .value rfl
  have hmade := made_constantSignature Sample.ofDer_der
  have hunsigned : Request.sample.toForm Url.check none = .ok Request.sample.fields :=
    Request.toForm_eq_ok.2 ⟨Request.validate_sample, rfl⟩
  obtain ⟨-, hsent, hform, -⟩ :=
    unsigned_only_without_key Url.check ⟨some constantSigner⟩ Request.sample
  have hf := (hsent hkey ((constantSignature Sample.leaf).appendTo Request.sample.fields)).2
    ⟨constantSigner, constantSignature Sample.leaf, _, rfl, hmade, hunsigned, rfl⟩
  refine ⟨⟨hkey, hf, fun h => hkey ((hform _ hf).1 h)⟩, ⟨hbroken, hfails, ?_⟩, ?_, ?_⟩
  · obtain ⟨-, -, -, hnone, -⟩ :=
      unsigned_only_without_key Url.check ⟨some brokenSigner⟩ Request.sample
    exact hnone _ rfl hbroken hfails
  · exact (unsigned_only_without_key _ _ Request.sample).1 (Or.inr ⟨_, rfl, rfl⟩)
  · exact (unsigned_only_without_key Url.check ⟨none⟩ _).2.2.2.2 (Or.inl rfl)

end sample

end SignPost.RequestSigner
