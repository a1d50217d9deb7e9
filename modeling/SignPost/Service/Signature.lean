import SignPost.Error
import SignPost.Form.Basic
import SignPost.Service.SignedList
import SignPost.Text.Decimal

/-!
# Service signatures

A signature over listed fields of a form, with the chain of the certificate that made it. Either
side may sign: the sender of a request, and the service its response. In a form it takes a list, a
value, the size of the chain and one field for each certificate.
-/

namespace SignPost.Service

/-- A service signature. The chain begins with the certificate that made it, and so is not empty. -/
structure Signature where
  signed : SignedList
  value : Bytes
  leaf : Certificate
  issuers : List Certificate
deriving DecidableEq, Repr

namespace Signature

/-- The chain, the certificate that made the signature first. -/
def chain (s : Signature) : List Certificate :=
  s.leaf :: s.issuers

/-- The signature with a chain, if the chain is not empty. -/
def ofChain (signed : SignedList) (value : Bytes) :
    List Certificate → Except SignatureFault Signature
  | [] => .error .emptyChain
  | leaf :: issuers => .ok ⟨signed, value, leaf, issuers⟩

def readCertificate (form : Form) (index : Nat) : Except SignatureFault Certificate :=
  match form.value? (Field.certificate index) with
  | none => .error (.noCertificate index)
  | some text =>
    match Certificate.ofBase64 text with
    | .ok c => .ok c
    | .error e => .error (.badCertificate index e)

/-- Reads `count` certificates from the given index on; the first fault decides. -/
def readChain (form : Form) (index : Nat) : (count : Nat) → Except SignatureFault (List Certificate)
  | 0 => .ok []
  | count + 1 =>
    match readCertificate form index with
    | .error e => .error e
    | .ok c =>
      match readChain form (index + 1) count with
      | .error e => .error e
      | .ok rest => .ok (c :: rest)

def readValue (form : Form) : Except SignatureFault Bytes :=
  match form.value? Field.serviceSignature with
  | none => .error .noValue
  | some text =>
    match Base64.decodeForm text with
    | .ok value => .ok value
    | .error e => .error (.badValue e)

def readChainSize (form : Form) : Except SignatureFault Nat :=
  match form.value? Field.chainSize with
  | none => .error .noChainSize
  | some text =>
    match Decimal.parseCount text with
    | some size => .ok size
    | none => .error (.badChainSize text)

/-- Reads what stands beside a list of signed fields. -/
def readSigned (form : Form) (signed : SignedList) : Except SignatureFault Signature :=
  match readValue form with
  | .error e => .error e
  | .ok value =>
    match readChainSize form with
    | .error e => .error e
    | .ok size =>
      match readChain form 1 size with
      | .error e => .error e
      | .ok certificates => ofChain signed value certificates

/-- Reads the service signature of a form; a form without a list of signed fields has none. -/
def ofForm (form : Form) : Except Error (Option Signature) :=
  match form.value? Field.serviceSigned with
  | none => .ok none
  | some list =>
    match readSigned form (SignedList.parse list) with
    | .ok s => .ok (some s)
    | .error e => .error (.malformedServiceSignature e)

/-- The fields of certificates from the given index on. -/
def chainFields (index : Nat) : List Certificate → List (String × String)
  | [] => []
  | c :: rest => (Field.certificate index, c.toBase64) :: chainFields (index + 1) rest

def fields (s : Signature) : List (String × String) :=
  (Field.serviceSigned, s.signed.render) :: (Field.serviceSignature, Base64.encode s.value) ::
    (Field.chainSize, toString s.chain.length) :: chainFields 1 s.chain

/-- The form with the fields of a service signature at its end. -/
def appendTo (s : Signature) (form : Form) : Form :=
  form.append ⟨s.fields⟩

end Signature

end SignPost.Service
