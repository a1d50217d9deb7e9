import SignPost.Form.Basic

/-!
# Fields of the protocol

The names of the fields on the wire, and the nine fields whose values can be covered by a service
signature. Anything that holds values of these nine is a source of fields: a form, a request, or
plain values.
-/

namespace SignPost

/-! ## Names on the wire -/

namespace Field

def status : String := "SignatureStatus"
def serviceSigned : String := "ServiceSigned"
def serviceSignature : String := "ServiceSignature"
def chainSize : String := "ServiceCertificateChainSize"

/-- The field of a certificate of the chain, counted from one. -/
def certificate (index : Nat) : String :=
  "ServiceCertificate." ++ toString index

end Field

inductive SignableField where
  | target
  | signatureRequest
  | signatureRequestId
  | signatureResponse
  | signatureResponseId
  | signatureCertificate
  | language
  | contentType
  | relayState
deriving DecidableEq, Repr

namespace SignableField

/-- All fields that a service signature can cover. -/
def all : List SignableField :=
  [target, signatureRequest, signatureRequestId, signatureResponse, signatureResponseId,
    signatureCertificate, language, contentType, relayState]

def name : SignableField → String
  | target => "target"
  | signatureRequest => "SignatureRequest"
  | signatureRequestId => "SignatureRequestId"
  | signatureResponse => "SignatureResponse"
  | signatureResponseId => "SignatureResponseId"
  | signatureCertificate => "SignatureCertificate"
  | language => "language"
  | contentType => "ContentType"
  | relayState => "RelayState"

def ofName? (text : String) : Option SignableField :=
  all.find? fun f => f.name = text

theorem ofName?_name (f : SignableField) : ofName? f.name = some f := by
  cases f <;> decide

theorem name_of_ofName? {text : String} {f : SignableField} (h : ofName? text = some f) :
    f.name = text := by
  simpa using List.find?_some h

end SignableField

class FieldSource (α : Type) where
  value? : α → SignableField → Option String

instance : FieldSource Form := ⟨fun form f => form.value? f.name⟩

/-- Values of the signable fields, given one by one. -/
structure SignedValues where
  target : Option String := none
  signatureRequest : Option String := none
  signatureRequestId : Option String := none
  signatureResponse : Option String := none
  signatureResponseId : Option String := none
  signatureCertificate : Option String := none
  language : Option String := none
  contentType : Option String := none
  relayState : Option String := none
deriving DecidableEq, Repr, Inhabited

def SignedValues.value? (v : SignedValues) : SignableField → Option String
  | .target => v.target
  | .signatureRequest => v.signatureRequest
  | .signatureRequestId => v.signatureRequestId
  | .signatureResponse => v.signatureResponse
  | .signatureResponseId => v.signatureResponseId
  | .signatureCertificate => v.signatureCertificate
  | .language => v.language
  | .contentType => v.contentType
  | .relayState => v.relayState

instance : FieldSource SignedValues := ⟨SignedValues.value?⟩

end SignPost
