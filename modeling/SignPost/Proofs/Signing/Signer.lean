import SignPost.Request.Signer
import SignPost.Response.Basic
import SignPost.Proofs.Service.Signature
import SignPost.Proofs.Service.Verifier
import SignPost.Proofs.Signing.Validation
import Mathlib.Data.List.Forall2

/-!
# Signers that can be verified

`Signer.Presents` is what is asked of the signer of an honest party: certificates that can be read,
the first of them for the key that it signs with. Both sides read its chain to the same
certificates (`readChain_request`, `readChain_response`), and a signature with this chain can be
sent (`sendable`). The built-in signer is such a signer if its key belongs to its certificate
(`presents_ofKey`).
-/

namespace SignPost.Signing

def Reads (ders : List Bytes) (certificates : List Certificate) : Prop :=
  List.Forall₂ (fun der c => Certificate.ofDer der = .ok c) ders certificates

theorem Reads.exists_der {ders : List Bytes} {certificates : List Certificate}
    (h : Reads ders certificates) {c : Certificate} (hc : c ∈ certificates) :
    ∃ der, Certificate.ofDer der = .ok c := by
  unfold Reads at h
  induction h with
  | nil => cases hc
  | cons hder _ ih =>
    rcases List.mem_cons.1 hc with rfl | hc
    · exact ⟨_, hder⟩
    · exact ih hc

theorem Reads.exists_certificate {ders : List Bytes} {certificates : List Certificate}
    (h : Reads ders certificates) {der : Bytes} (hder : der ∈ ders) :
    ∃ c, Certificate.ofDer der = .ok c := by
  unfold Reads at h
  induction h with
  | nil => cases hder
  | cons hread _ ih =>
    rcases List.mem_cons.1 hder with rfl | hder
    · exact ⟨_, hread⟩
    · exact ih hder

/-- Where the certificates of a signer are read to a leaf and its issuers, all that it signs is
valid under the key of the leaf. That their number fits into a machine word says nothing about a
chain that is in memory. -/
structure Signer.Presents (signer : Signer) (leaf : Certificate) (issuers : List Certificate) :
    Prop where
  chain : ∃ ders, signer.chain = .ok ders ∧ Reads ders (leaf :: issuers)
  length_le : (leaf :: issuers).length ≤ Decimal.maxCount
  valid : ∀ message signature, signer.sign message = .ok signature →
    validate signer.algorithm leaf.publicKey.bytes message signature = .ok ()

theorem readChain_request {ders : List Bytes} {certificates : List Certificate}
    (h : Reads ders certificates) : RequestSigner.readChain ders = .ok certificates := by
  unfold Reads at h
  induction h with
  | nil => rfl
  | cons hder _ ih =>
    rw [RequestSigner.readChain, hder, ih]

theorem reads_of_readChain {ders : List Bytes} {certificates : List Certificate}
    (h : RequestSigner.readChain ders = .ok certificates) : Reads ders certificates := by
  induction ders generalizing certificates with
  | nil =>
    obtain rfl := Except.ok.inj h
    exact List.Forall₂.nil
  | cons der ders ih =>
    rw [RequestSigner.readChain] at h
    split at h
    · cases h
    next c hc =>
      split at h
      · cases h
      next more hmore =>
        obtain rfl := Except.ok.inj h
        exact List.Forall₂.cons hc (ih hmore)

theorem readChain_response {ders : List Bytes} {certificates : List Certificate}
    (h : Reads ders certificates) : Response.readChain ders = .ok certificates := by
  unfold Reads at h
  induction h with
  | nil => rfl
  | cons hder _ ih =>
    unfold Response.readChain at ih ⊢
    rw [List.mapM_cons, hder, ih]
    rfl

namespace Signer.Presents

variable {signer : Signer} {leaf : Certificate} {issuers : List Certificate}

theorem sendable (h : signer.Presents leaf issuers) {signed : Service.SignedList} (value : Bytes)
    (hnames : ∀ name ∈ signed.names, Service.SignedList.IsName name.toList) :
    Service.Signature.Sendable ⟨signed, value, leaf, issuers⟩ := by
  obtain ⟨ders, -, hreads⟩ := h.chain
  exact ⟨hnames, fun c hc => hreads.exists_der hc, h.length_le⟩

/-- What such a signer signs is accepted where its certificate is pinned. -/
theorem verify (h : signer.Presents leaf issuers) {α : Type} [FieldSource α] {source : α}
    {signed : Service.SignedList} {value : Bytes}
    (hvalue : signer.sign (signed.canonical source) = .ok value) :
    Service.Verifier.verify ⟨some (TrustAnchor.ofCertificate leaf), signer.algorithm⟩
      (some ⟨signed, value, leaf, issuers⟩) source = .ok () :=
  Service.Verifier.verify_pinned.2 ⟨_, rfl, rfl, h.valid _ _ hvalue⟩

end Signer.Presents

theorem presents_ofKey {key : Rsa.PrivateKey} {algorithm : Algorithm} {ders : List Bytes}
    {leaf : Certificate} {issuers : List Certificate} (hreads : Reads ders (leaf :: issuers))
    (hlength : (leaf :: issuers).length ≤ Decimal.maxCount)
    (hkey : usableKey leaf.publicKey.bytes = .ok key.publicKey) :
    (Signer.ofKey key ders algorithm).Presents leaf issuers where
  chain := ⟨ders, rfl, hreads⟩
  length_le := hlength
  valid _ _ hsign := validate_signWithKey hkey hsign

/-! ### A small key and its certificate -/

namespace Sample

def key : Rsa.PrivateKey where
  publicKey :=
    { modulus :=
        0xb5ae24bb65fa6a40e422b57c096898087c3788688254423e7701871a65572a4e <<< 256 +
        0xf6eb5d953a9fb0f037b2d8f148d2829fd95644a1f073e4737acbe18ec3b323ff
      exponent := 65537 }
  privateExponent :=
    0x695a96ca651495d1137a5d2b947926d0a4d7bf2e7b8548f4d825f6a683e5cc0e <<< 256 +
    0x0c4a6ea267d0255727ae9c1c99ae87730a8a5e1f7574be69ddb200c2e3a580c1
  firstPrime := 0xd2e3264db08f3324bc6d42fea98dff4027d78d8a5777d4bce96dd93331f09929
  secondPrime := 0xdc8b861d0ee925046f754e4ebbc0fd42a23c217bdc6ce7ecea0aeb4e33bf70e7

/-- The certificate of the key, issued by its own subject. -/
def der : Bytes :=
  [0x30, 0x82, 0x01, 0x1c, 0x30, 0x81, 0xc7, 0xa0, 0x03, 0x02, 0x01, 0x02, 0x02, 0x05, 0x01, 0x02,
    0x03, 0x04, 0x05, 0x30, 0x0d, 0x06, 0x09, 0x2a, 0x86, 0x48, 0x86, 0xf7, 0x0d, 0x01, 0x01, 0x0b,
    0x05, 0x00, 0x30, 0x15, 0x31, 0x13, 0x30, 0x11, 0x06, 0x03, 0x55, 0x04, 0x03, 0x0c, 0x0a, 0x73,
    0x70, 0x2e, 0x65, 0x78, 0x61, 0x6d, 0x70, 0x6c, 0x65, 0x30, 0x1e, 0x17, 0x0d, 0x32, 0x30, 0x30,
    0x31, 0x30, 0x31, 0x30, 0x30, 0x30, 0x30, 0x30, 0x30, 0x5a, 0x17, 0x0d, 0x34, 0x30, 0x30, 0x31,
    0x30, 0x31, 0x30, 0x30, 0x30, 0x30, 0x30, 0x30, 0x5a, 0x30, 0x15, 0x31, 0x13, 0x30, 0x11, 0x06,
    0x03, 0x55, 0x04, 0x03, 0x0c, 0x0a, 0x73, 0x70, 0x2e, 0x65, 0x78, 0x61, 0x6d, 0x70, 0x6c, 0x65,
    0x30, 0x5c, 0x30, 0x0d, 0x06, 0x09, 0x2a, 0x86, 0x48, 0x86, 0xf7, 0x0d, 0x01, 0x01, 0x01, 0x05,
    0x00, 0x03, 0x4b, 0x00, 0x30, 0x48, 0x02, 0x41, 0x00, 0xb5, 0xae, 0x24, 0xbb, 0x65, 0xfa, 0x6a,
    0x40, 0xe4, 0x22, 0xb5, 0x7c, 0x09, 0x68, 0x98, 0x08, 0x7c, 0x37, 0x88, 0x68, 0x82, 0x54, 0x42,
    0x3e, 0x77, 0x01, 0x87, 0x1a, 0x65, 0x57, 0x2a, 0x4e, 0xf6, 0xeb, 0x5d, 0x95, 0x3a, 0x9f, 0xb0,
    0xf0, 0x37, 0xb2, 0xd8, 0xf1, 0x48, 0xd2, 0x82, 0x9f, 0xd9, 0x56, 0x44, 0xa1, 0xf0, 0x73, 0xe4,
    0x73, 0x7a, 0xcb, 0xe1, 0x8e, 0xc3, 0xb3, 0x23, 0xff, 0x02, 0x03, 0x01, 0x00, 0x01, 0x30, 0x0d,
    0x06, 0x09, 0x2a, 0x86, 0x48, 0x86, 0xf7, 0x0d, 0x01, 0x01, 0x0b, 0x05, 0x00, 0x03, 0x41, 0x00,
    0x92, 0x1b, 0x02, 0x33, 0x6e, 0x4d, 0xc2, 0x74, 0x87, 0x1e, 0xb1, 0xd5, 0x09, 0xbb, 0xdc, 0x90,
    0x5f, 0xeb, 0xaf, 0x27, 0xb3, 0xed, 0xae, 0x57, 0x9c, 0x24, 0x80, 0x28, 0xc5, 0x23, 0x79, 0xdd,
    0xc4, 0x7d, 0x42, 0x81, 0x2b, 0x93, 0x06, 0x07, 0x62, 0x38, 0xe5, 0x77, 0x2f, 0x11, 0xe5, 0xed,
    0xd7, 0xe9, 0x92, 0xd3, 0x75, 0x08, 0x85, 0xe3, 0x1a, 0x28, 0x24, 0x37, 0xdb, 0x3e, 0x04, 0x05]

def leaf : Certificate :=
  (Certificate.ofDer? der).get (by decide +kernel)

theorem ofDer_der : Certificate.ofDer der = .ok leaf := by
  have hread : Certificate.ofDer? der = some leaf := (Option.some_get _).symm
  rw [Certificate.ofDer, hread]

def signer (algorithm : Algorithm) : Signer :=
  Signer.ofKey key [der] algorithm

theorem presents (algorithm : Algorithm) : (signer algorithm).Presents leaf [] := by
  have hreads : Reads [der] [leaf] := List.Forall₂.cons ofDer_der List.Forall₂.nil
  exact presents_ofKey hreads (by decide) (by decide +kernel)

theorem exists_signature {algorithm : Algorithm} {message : Bytes}
    (h : ((signer algorithm).sign message).isOk = true) :
    ∃ value, (signer algorithm).sign message = .ok value := by
  cases hsign : (signer algorithm).sign message with
  | error e =>
    rw [hsign] at h
    cases h
  | ok value => exact ⟨value, rfl⟩

end Sample

end SignPost.Signing
