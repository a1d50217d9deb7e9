import SignPost.Data.Value
import SignPost.Field
import SignPost.Signing.Signer
import SignPost.Text.Quoted
import SignPost.Trust
import SignPost.Url.Address

/-!
# Failures

Every way in which an operation of the protocol fails, by its cause, and the wording of each. Those
that show a response to be forged or not from the pinned service are set apart: they are never
recovered from. What the readers of certificates, keys and settings say about an input they refuse
is worded by them (`Wording`).
-/

namespace SignPost

/-- What readers say about an input that they refuse: the bytes of a certificate, the text of a key,
or the value at a path of settings. -/
structure Wording where
  certificate : Bytes → String
  privateKey : Bytes → String
  settings : List String → Data.Shape → String

/-- Why the fields of a service signature cannot be read. -/
inductive SignatureFault where
  | noValue
  | badValue (cause : Base64.Error)
  | noChainSize
  | badChainSize (text : String)
  | noCertificate (index : Nat)
  | badCertificate (index : Nat) (cause : Certificate.Error)
  | emptyChain
deriving DecidableEq, Repr

def SignatureFault.message (describe : Bytes → String) : SignatureFault → String
  | .noValue => Field.serviceSignature ++ " missing"
  | .badValue cause => Field.serviceSignature ++ ": " ++ cause.message
  | .noChainSize => Field.chainSize ++ " missing"
  | .badChainSize text => Field.chainSize ++ " is not a number: " ++ text
  | .noCertificate index => Field.certificate index ++ " missing"
  | .badCertificate index cause => Field.certificate index ++ ": " ++ cause.message describe
  | .emptyChain => "empty certificate chain"

/-- What the receiver of a signed response has to know of its request and does not. -/
inductive ContextFault where
  | noTarget
  | noRequest
deriving DecidableEq, Repr

def ContextFault.message : ContextFault → String
  | .noTarget => "target is required to verify the service signature"
  | .noRequest => "SignatureRequest or SignatureRequestId is required"

/-- A request does not hold exactly one of document and artifact. -/
inductive PayloadFault where
  | neither
  | both
deriving DecidableEq, Repr

def PayloadFault.message : PayloadFault → String
  | .neither => "one of SignatureRequest or SignatureRequestId is required"
  | .both => "SignatureRequest and SignatureRequestId are mutually exclusive"

inductive TransportFault where
  | noResponseId
  | foreignResponse (received sent : String)
  /-- A verification is answered without a detailed result. -/
  | noMinor
  | reported (text : String)
deriving DecidableEq, Repr

def TransportFault.message : TransportFault → String
  | .noResponseId => "missing response id"
  | .foreignResponse received sent =>
    "response id " ++ received ++ " does not match request id " ++ sent
  | .noMinor => "missing ResultMinor"
  | .reported text => text

/-- What is wrong with a value that was passed in or configured. -/
inductive ParameterError where
  /-- The target of a request is not an absolute address. -/
  | notUrl (cause : Url.Error)
  | badFingerprint (cause : TrustAnchor.Error)
  | noExtension
  | badFileName
  | unparsable
  /-- Settings are in their format and hold, at a path, a value of a wrong shape. -/
  | wrongShape (path : List String) (found : Data.Shape)
  | blankLanguage
  /-- No signature of this algorithm can be validated. -/
  | unsupportedAlgorithm (name : String)
  /-- The validation of a response goes on after its end. -/
  | validationFinished (state : String)
deriving DecidableEq, Repr

def ParameterError.message (wording : List String → Data.Shape → String) : ParameterError → String
  | .notUrl cause => "target is not a URL: " ++ cause.message
  | .badFingerprint cause => cause.message
  | .noExtension => "settings file must have json or toml extension"
  | .badFileName => "invalid settings file name"
  | .unparsable => "could not parse configuration"
  | .wrongShape path found => wording path found
  | .blankLanguage => "client.language must not be empty"
  | .unsupportedAlgorithm name => "unsupported signing algorithm " ++ name
  | .validationFinished state => "response validation already finished (" ++ state ++ ")"

inductive Error where
  -- the structure of a response
  | missingStatus
  | invalidStatus (status : String)
  | missingPayload
  | ambiguousPayload
  | invalidPayload
  | missingCertificate
  | invalidCertificate (cause : Certificate.Error)
  | relayStateMismatch
  -- trust and integrity
  | serviceSignatureMissing
  | serviceSignatureInvalid
  | fingerprintMismatch
  | malformedServiceSignature (cause : SignatureFault)
  | missingRequestContext (cause : ContextFault)
  -- the construction of a request
  | missingKeyMaterial
  | invalidFieldCombination (cause : PayloadFault)
  | signer (cause : Signing.SignerError)
  -- reports
  | missingSignerCertificate
  -- answers of the service
  | transport (cause : TransportFault)
  | unsuccessfulResult (major : String) (minor : Option String)
  | notParseableDocument
  | documentNotFound
  | missingStorageInfo
  | unexpectedProfile (profile : Option String)
  -- settings
  | badParameter (cause : ParameterError)
  | unsupportedFormat (format : String)
  | io (text : String)
deriving DecidableEq, Repr

/-- An optional text as it is shown in diagnostics. -/
def quotedOption : Option String → String
  | some text => "Some(" ++ Text.quoted text ++ ")"
  | none => "None"

def Error.message (w : Wording) : Error → String
  | .missingStatus => "signature status missing"
  | .invalidStatus status => "invalid signature status: " ++ status
  | .missingPayload => "signature response and signature response id both missing"
  | .ambiguousPayload => "signature response and signature response id are both present"
  | .invalidPayload => "signature response is not valid base64"
  | .missingCertificate => "signature certificate missing"
  | .invalidCertificate cause => "invalid certificate: " ++ cause.message w.certificate
  | .relayStateMismatch => "relay state mismatch"
  | .serviceSignatureMissing => "service signature missing"
  | .serviceSignatureInvalid => "service signature invalid"
  | .fingerprintMismatch => "service certificate fingerprint mismatch"
  | .malformedServiceSignature cause =>
    "malformed service signature: " ++ cause.message w.certificate
  | .missingRequestContext cause => "missing request context: " ++ cause.message
  | .missingKeyMaterial => "signing key material missing"
  | .invalidFieldCombination cause => "invalid request field combination: " ++ cause.message
  | .signer cause => cause.message w.certificate w.privateKey
  | .missingSignerCertificate => "signer certificate missing from verification report"
  | .transport cause => "transport protocol error: " ++ cause.message
  | .unsuccessfulResult major minor =>
    "unsuccessful result: major = " ++ major ++ ", minor = " ++ quotedOption minor
  | .notParseableDocument => "document is not parseable XML"
  | .documentNotFound => "document not found"
  | .missingStorageInfo => "storage info missing from response"
  | .unexpectedProfile profile => "unexpected profile: " ++ profile.getD "<none>"
  | .badParameter cause => "bad parameter: " ++ cause.message w.settings
  | .unsupportedFormat format => "unsupported settings format: " ++ format
  | .io text => text

/-- The failure shows that a response is forged or not from the pinned service. -/
def Error.isIntegrityFailure : Error → Bool
  | .serviceSignatureMissing => true
  | .serviceSignatureInvalid => true
  | .fingerprintMismatch => true
  | .malformedServiceSignature _ => true
  | _ => false

end SignPost
