import SignPost.Error
import SignPost.Time.Calendar

/-!
# Verification reports

What the service reports about the signatures of a document, one by one, and the signers that are
read from it. A signature that was found valid has to come with the certificate of its signer: it
is the first certificate of the first detailed account.
-/

namespace SignPost

open Time (Moment)

/-! ## Result codes -/

namespace ResultCode

def success : String := "urn:oasis:names:tc:dss:1.0:resultmajor:Success"
def validSignature : String :=
  "urn:oasis:names:tc:dss:1.0:resultminor:valid:signature:OnAllDocuments"
def validSignatures : String := "urn:oasis:names:tc:dss:1.0:resultminor:ValidMultiSignatures"
def notParseable : String := "urn:oasis:names:tc:dss:1.0:resultminor:NotParseableXMLDocument"
def reportedValid : String := "urn:oasis:names:tc:dss:1.0:detail:valid"

end ResultCode

/-! ## Reports -/

structure ResultStatus where
  major : String := ""
  minor : Option String := none
  message : Option String := none
deriving DecidableEq, Repr, Inhabited

/-- A report counts as a success with the code of reports or with that of answers. -/
def ResultStatus.isSuccess (r : ResultStatus) : Bool :=
  r.major = ResultCode.success || r.major = ResultCode.reportedValid

namespace Report

structure CertificateEntry where
  subject : Option String := none
  value : Option Bytes := none
deriving DecidableEq, Repr, Inhabited

structure Account where
  /-- The certificates of the path, that of the signer first. -/
  certificates : List CertificateEntry := []
  claimedRoles : List String := []
deriving DecidableEq, Repr, Inhabited

/-- What a report tells about a signature beside its result. -/
inductive Detail where
  | account (a : Account)
  | other
deriving DecidableEq, Repr

def Detail.account? : Detail → Option Account
  | .account a => some a
  | .other => none

structure Individual where
  result : ResultStatus
  signingTime : Option Moment := none
  details : List Detail := []
deriving DecidableEq, Repr

structure Signer where
  certificate : Certificate
  signingTime : Option Moment
  role : Option String
deriving DecidableEq, Repr

def Individual.account? (r : Individual) : Option Account :=
  r.details.findSome? Detail.account?

/-- The certificate of the signer in an account, if it is there and can be read. -/
def Account.certificate? (a : Account) : Option Certificate := do
  let entry ← a.certificates.head?
  let bytes ← entry.value
  (Certificate.ofDer bytes).toOption

def Individual.signer? (r : Individual) : Option Signer := do
  let account ← r.account?
  let certificate ← account.certificate?
  some ⟨certificate, r.signingTime, account.claimedRoles.head?⟩

end Report

/-- What the service reports about the signatures of a document. -/
structure Report where
  individuals : List Report.Individual := []
deriving DecidableEq, Repr, Inhabited

namespace Report

def successes (r : Report) : List Individual :=
  r.individuals.filter fun i => i.result.isSuccess

def signers (r : Report) : Except Error (List Signer) :=
  match r.successes.mapM Individual.signer? with
  | some signers => .ok signers
  | none => .error .missingSignerCertificate

def signersOf : Option Report → Except Error (List Signer)
  | none => .ok []
  | some r => r.signers

end Report

end SignPost
