import SignPost.Client.Answer

/-!
# Calls to the service

Each call makes one request, whatever becomes of it, and judges its answer. A failure of the
transport is passed on as it is.
-/

namespace SignPost.Client

variable {σ : Type}

/-- A request to verify a document, under the id of a nonce. -/
def verifyRequest (nonce : String) (document : Upload) (signed : Option Upload)
    (wantsReport : Bool) : VerifyRequest :=
  ⟨requestId verifyPurpose nonce, document.document, signed.map Upload.document, wantsReport⟩

def askVerify (t : Transport σ) (request : VerifyRequest) (s : σ) :
    Except Error VerifyResponse × σ :=
  let (answer, s) := t.verify request s
  (answer.bind (VerifyResponse.accept request.id), s)

/-- Whether a document has valid signatures; `signed` is the document that was signed, where it
stands apart. -/
def verify (t : Transport σ) (nonce : String) (document : Upload) (signed : Option Upload)
    (s : σ) : Except Error Bool × σ :=
  let (answer, s) := askVerify t (verifyRequest nonce document signed false) s
  (answer.bind VerifyResponse.verdict, s)

def verifySigners (t : Transport σ) (nonce : String) (document : Upload) (s : σ) :
    Except Error (List Report.Signer) × σ :=
  let (answer, s) := askVerify t (verifyRequest nonce document none true) s
  (answer.bind fun r => Report.signersOf r.report, s)

def store (t : Transport σ) (nonce : String) (document : Upload) (s : σ) :
    Except Error StorageInfo × σ :=
  let request : StoreRequest := ⟨requestId signPurpose nonce, artifactProfile, document.document⟩
  let (answer, s) := t.store request s
  (answer.bind (StoreResponse.accept request.id), s)

def retrieve (t : Transport σ) (nonce artifact : String) (s : σ) : Except Error Bytes × σ :=
  let request : RetrieveRequest := ⟨requestId signPurpose nonce, artifactProfile, artifact⟩
  let (answer, s) := t.retrieve request s
  (answer.bind fun r => (r.accept request.id).map Document.content, s)

inductive Call where
  | verify (document : Upload) (signed : Option Upload)
  | verifySigners (document : Upload)
  | store (document : Upload)
  | retrieve (artifact : String)
deriving DecidableEq, Repr

inductive Reply where
  | verdict (valid : Bool)
  | signers (signers : List Report.Signer)
  | stored (info : StorageInfo)
  | content (content : Bytes)
deriving DecidableEq, Repr

def perform (t : Transport σ) (nonce : String) (call : Call) (s : σ) : Except Error Reply × σ :=
  match call with
  | .verify document signed =>
    let (result, s) := verify t nonce document signed s
    (result.map .verdict, s)
  | .verifySigners document =>
    let (result, s) := verifySigners t nonce document s
    (result.map .signers, s)
  | .store document =>
    let (result, s) := store t nonce document s
    (result.map .stored, s)
  | .retrieve artifact =>
    let (result, s) := retrieve t nonce artifact s
    (result.map .content, s)

/-- Makes calls one after the other, each with a nonce of its own. -/
def performAll (t : Transport σ) : List (String × Call) → σ → List (Except Error Reply) × σ
  | [], s => ([], s)
  | (nonce, call) :: rest, s =>
    let (result, s) := perform t nonce call s
    let (results, s) := performAll t rest s
    (result :: results, s)

end SignPost.Client
