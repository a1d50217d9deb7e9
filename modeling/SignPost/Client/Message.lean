import SignPost.Report.Basic
import SignPost.Text.Utf8

/-!
# Messages to the service

The three operations of the service and their answers. Every request has an id of its own, which
its answer repeats. A document is XML, or anything else with its media type.
-/

namespace SignPost

inductive Document where
  | xml (content : Bytes)
  | data (mediaType : String) (content : Bytes)
deriving DecidableEq, Repr

namespace Document

def xmlType : String := "text/xml"

/-- The document of a content; without a media type it is XML. -/
def ofContent (content : Bytes) : Option String → Document
  | none => .xml content
  | some mediaType => if mediaType = xmlType then .xml content else .data mediaType content

def content : Document → Bytes
  | .xml content => content
  | .data _ content => content

def mediaType : Document → String
  | .xml _ => xmlType
  | .data mediaType _ => mediaType

end Document

/-- A document as a caller gives it: a content, and a media type where one is told. -/
structure Upload where
  content : Bytes
  mediaType : Option String
deriving DecidableEq, Repr

def Upload.document (u : Upload) : Document :=
  Document.ofContent u.content u.mediaType

namespace Client

open Time (Moment)

/-- The profile of storing and retrieving documents. -/
def artifactProfile : String := "be:fedict:eid:dss:profile:artifact-binding:1.0"

/-- The id of a request: what it is for, and a text that no other request has. -/
def requestId (purpose nonce : String) : String :=
  purpose ++ "-" ++ nonce

def verifyPurpose : String := "dss-verify-request"

/-- What requests to store or retrieve documents are for. -/
def signPurpose : String := "dss-sign-request"

/-- A request to verify the signatures of a document. -/
structure VerifyRequest where
  id : String
  document : Document
  /-- The document that was signed, where the signature stands apart from it. -/
  signed : Option Document
  wantsReport : Bool
deriving DecidableEq, Repr

structure StoreRequest where
  id : String
  profile : String
  document : Document
deriving DecidableEq, Repr

structure RetrieveRequest where
  id : String
  profile : String
  artifact : String
deriving DecidableEq, Repr

structure VerifyResponse where
  requestId : Option String
  result : ResultStatus
  report : Option Report
deriving DecidableEq, Repr

/-- How a stored document is named, and for how long it is kept. -/
structure StorageInfo where
  artifact : String
  notBefore : Moment
  notAfter : Moment
deriving DecidableEq, Repr

structure StoreResponse where
  requestId : Option String
  profile : Option String
  result : ResultStatus
  storage : Option StorageInfo
deriving DecidableEq, Repr

/-- The answer to a request for a stored document. -/
structure RetrieveResponse where
  requestId : Option String
  profile : Option String
  result : ResultStatus
  document : Option Document
deriving DecidableEq, Repr

/-- A way to reach the service. What it answers may depend on all it was asked before, which its
state tells. -/
structure Transport (σ : Type) where
  verify : VerifyRequest → σ → Except Error VerifyResponse × σ
  store : StoreRequest → σ → Except Error StoreResponse × σ
  retrieve : RetrieveRequest → σ → Except Error RetrieveResponse × σ

end Client

end SignPost
