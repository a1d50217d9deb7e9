import SignPost.Error
import SignPost.Service.Signature
import SignPost.Settings.Basic
import SignPost.Url.Basic

/-!
# Signature requests

A request to have a document signed: the address that the response is posted to, and either the
document itself, encoded, or the name under which the service stores it. A request is sent as a
form, with or without a service signature.

Which texts are addresses is left open: `check` tells it, and `Url.check` is the one that programs
use.

A request is built from its target by a sequence of edits. An edit sets one field; settings only
fill in a language where none is set, so their place among the edits does not matter.
-/

namespace SignPost

structure Request where
  target : String
  document : Option String := none
  /-- The name of a document that the service stores. -/
  artifact : Option String := none
  language : Option String := none
  contentType : Option String := none
  relayState : Option String := none
deriving DecidableEq, Repr, Inhabited

namespace Request

/-- The value of a field; those of a response have none. -/
def value? (r : Request) : SignableField → Option String
  | .target => some r.target
  | .signatureRequest => r.document
  | .signatureRequestId => r.artifact
  | .language => r.language
  | .contentType => r.contentType
  | .relayState => r.relayState
  | .signatureResponse => none
  | .signatureResponseId => none
  | .signatureCertificate => none

instance : FieldSource Request := ⟨value?⟩

def signedValues (r : Request) : SignedValues where
  target := some r.target
  signatureRequest := r.document
  signatureRequestId := r.artifact
  language := r.language
  contentType := r.contentType
  relayState := r.relayState

/-- A request can be sent: it holds one of document and artifact, and its target is an address. -/
def validate (check : Url.Check) (r : Request) : Except Error Unit :=
  match r.document, r.artifact with
  | none, none => .error (.invalidFieldCombination .neither)
  | some _, some _ => .error (.invalidFieldCombination .both)
  | _, _ =>
    match check r.target with
    | .ok () => .ok ()
    | .error e => .error (.badParameter (.notUrl e))

/-- The fields that a signature of a request covers, in order. -/
def signedFields (r : Request) : List SignableField :=
  .target ::
    ((if r.document.isSome then [.signatureRequest]
      else if r.artifact.isSome then [.signatureRequestId] else []) ++
    (if r.language.isSome then [.language] else []) ++
    (if r.contentType.isSome then [.contentType] else []) ++
    (if r.relayState.isSome then [.relayState] else []))

/-- The names of the fields that a signature of a request covers. -/
def signedNames (r : Request) : List String :=
  r.signedFields.map SignableField.name

def fields (r : Request) : Form :=
  Form.empty
    |>.pushIf SignableField.signatureRequest.name r.document
    |>.pushIf SignableField.signatureRequestId.name r.artifact
    |>.push SignableField.target.name r.target
    |>.pushIf SignableField.language.name r.language
    |>.pushIf SignableField.contentType.name r.contentType
    |>.pushIf SignableField.relayState.name r.relayState

/-- The form of a request that can be sent, with the fields of a signature at its end. -/
def toForm (check : Url.Check) (r : Request) (signature : Option Service.Signature) :
    Except Error Form :=
  match r.validate check with
  | .error e => .error e
  | .ok () =>
    match signature with
    | some s => .ok (s.appendTo r.fields)
    | none => .ok r.fields

/-! ## Building -/

inductive Edit where
  | document (content : Bytes)
  | encodedDocument (text : String)
  | artifact (id : String)
  | language (text : String)
  | contentType (text : String)
  | relayState (text : String)
  /-- Takes the language of settings unless one is set. -/
  | settings (settings : Settings)
deriving DecidableEq, Repr

def edit (r : Request) : Edit → Request
  | .document content => { r with document := some (Base64.encode content) }
  | .encodedDocument text => { r with document := some text }
  | .artifact id => { r with artifact := some id }
  | .language text => { r with language := some text }
  | .contentType text => { r with contentType := some text }
  | .relayState text => { r with relayState := some text }
  | .settings s => { r with language := r.language.or s.language }

/-- The request of a target and a sequence of edits. -/
def build (target : String) (edits : List Edit) : Request :=
  edits.foldl edit ⟨target, none, none, none, none, none⟩

end Request

end SignPost
