import SignPost.Client.Message

/-!
# Judging answers

An answer is looked at in a fixed order: whether it is the answer to the request, whether the
service was successful, whether it is of the right profile, and what it holds.
-/

namespace SignPost.Client

def checkId (sent : String) : Option String → Except Error Unit
  | none => .error (.transport .noResponseId)
  | some received =>
    if received = sent then .ok () else .error (.transport (.foreignResponse received sent))

def checkResult (r : ResultStatus) : Except Error Unit :=
  if r.major = ResultCode.success then .ok ()
  else if r.minor = some ResultCode.notParseable then .error .notParseableDocument
  else .error (.unsuccessfulResult r.major r.minor)

/-- The answer is of the profile of stored documents. -/
def checkProfile (profile : Option String) : Except Error Unit :=
  if profile = some artifactProfile then .ok () else .error (.unexpectedProfile profile)

/-- The answer to a verification, once it is the right one and successful. -/
def VerifyResponse.accept (sent : String) (r : VerifyResponse) : Except Error VerifyResponse := do
  checkId sent r.requestId
  checkResult r.result
  return r

def VerifyResponse.verdict (r : VerifyResponse) : Except Error Bool :=
  match r.result.minor with
  | none => .error (.transport .noMinor)
  | some minor => .ok (minor = ResultCode.validSignature || minor = ResultCode.validSignatures)

def StoreResponse.accept (sent : String) (r : StoreResponse) : Except Error StorageInfo := do
  checkId sent r.requestId
  checkResult r.result
  checkProfile r.profile
  match r.storage with
  | some info => return info
  | none => throw .missingStorageInfo

def RetrieveResponse.accept (sent : String) (r : RetrieveResponse) : Except Error Document := do
  checkId sent r.requestId
  checkResult r.result
  checkProfile r.profile
  match r.document with
  | some document => return document
  | none => throw .documentNotFound

end SignPost.Client
