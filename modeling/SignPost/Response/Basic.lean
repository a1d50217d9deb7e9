import SignPost.Request.Basic

/-!
# Responses

What the sender remembers of a request, and what a response comes to: a signed document, given in
full or by name, with the certificate of the person who signed it, or the news that the user
declined. The service signs a response over listed fields, of which those of the request are not
part of the response, and adds its signature to the fields of the response.
-/

namespace SignPost

structure Expected where
  target : Option String := none
  document : Option String := none
  artifact : Option String := none
  language : Option String := none
  contentType : Option String := none
  relayState : Option String := none
deriving DecidableEq, Repr, Inhabited

def Expected.ofRequest (r : Request) : Expected where
  target := some r.target
  document := r.document
  artifact := r.artifact
  language := r.language
  contentType := r.contentType
  relayState := r.relayState

namespace Response

/-- The values of the status field that are known. -/
def statusOk : String := "OK"
def statusCancelled : String := "USER_CANCELLED"

/-- What a response carries: a document in base64, or the name of a stored one. -/
inductive Payload where
  | document (text : String)
  | artifact (id : String)
deriving DecidableEq, Repr

inductive Result where
  | document (content : Bytes)
  | artifact (id : String)
deriving DecidableEq, Repr

def Result.document? : Result → Option Bytes
  | .document content => some content
  | .artifact _ => none

def Result.artifact? : Result → Option String
  | .document _ => none
  | .artifact id => some id

inductive Outcome where
  /-- The document was signed with this certificate. -/
  | signed (result : Result) (certificate : Certificate)
  | cancelled
deriving DecidableEq, Repr

def Outcome.isCancelled : Outcome → Bool
  | .cancelled => true
  | .signed _ _ => false

/-! ## Issuing -/

inductive IssueError where
  | signer (cause : Signing.SignerError)
  | certificate (cause : Certificate.Error)
  | signature (cause : SignatureFault)
deriving DecidableEq, Repr

/-- The fields that a signature of a response covers: its own, and then those of the request. -/
def covered (expected : Expected) (form : Form) : Form :=
  form
    |>.pushIf SignableField.target.name expected.target
    |>.pushIf SignableField.signatureRequest.name expected.document
    |>.pushIf SignableField.signatureRequestId.name expected.artifact
    |>.pushIf SignableField.language.name expected.language
    |>.pushIf SignableField.contentType.name expected.contentType

def readChain (chain : List Bytes) : Except IssueError (List Certificate) :=
  chain.mapM fun der => (Certificate.ofDer der).mapError .certificate

/-- The signature of a response over listed fields. -/
def sign (signer : Signing.Signer) (signed : Service.SignedList) (expected : Expected)
    (form : Form) : Except IssueError Service.Signature := do
  let value ← (signer.sign (signed.canonical (covered expected form))).mapError .signer
  let chain ← signer.chain.mapError .signer
  let certificates ← readChain chain
  (Service.Signature.ofChain signed value certificates).mapError .signature

end Response

end SignPost
