import SignPost.Certificate.Basic
import SignPost.Pem
import SignPost.Rsa.KeyFile
import SignPost.Rsa.Signature
import SignPost.Signing.Algorithm

/-!
# Signers

A signer has an algorithm, a chain of certificates and a way to sign a message; the chain and each
signature may be unavailable. The built-in signer has an RSA key, read from armoured text.
-/

namespace SignPost.Signing

/-- What is wrong with the chain or the key of a signer. -/
inductive CredentialFault where
  | badArmour (cause : Pem.Error)
  | emptyChain
  | keyNotText (cause : Utf8.Error)
  /-- No private key can be read from this text. -/
  | badKey (text : Bytes)
  | badCertificate (cause : Certificate.Error)
  | reported (text : String)
deriving DecidableEq, Repr

/-- The wording of a fault; what is wrong with a certificate or a key is said by `describe` and
`describeKey`. -/
def CredentialFault.message (describe describeKey : Bytes → String) : CredentialFault → String
  | .badArmour cause => "invalid PEM in certificate chain: " ++ cause.message
  | .emptyChain => "certificate chain is empty"
  | .keyNotText cause => "private key is not UTF-8: " ++ cause.message
  | .badKey text => "invalid RSA private key: " ++ describeKey text
  | .badCertificate cause => "certificate chain: " ++ cause.message describe
  | .reported text => text

/-- Why a signer cannot be built or does not sign. -/
inductive SignerError where
  | io (detail : String)
  | invalidCredentials (cause : CredentialFault)
  | failed (detail : String)
deriving DecidableEq, Repr

def SignerError.message (describe describeKey : Bytes → String) : SignerError → String
  | .io detail => "I/O error (" ++ detail ++ ")"
  | .invalidCredentials cause =>
    "invalid signing credentials (" ++ cause.message describe describeKey ++ ")"
  | .failed detail => "internal error (" ++ detail ++ ")"

/-- Anything that signs: what it gives as its chain, the certificate of its key first, and what it
gives as the signature of a message. -/
structure Signer where
  algorithm : Algorithm
  chain : Except SignerError (List Bytes)
  sign : Bytes → Except SignerError Bytes

def signWithKey (key : Rsa.PrivateKey) (algorithm : Algorithm) (message : Bytes) :
    Except SignerError Bytes :=
  match key.sign (algorithm.hash.identified message) with
  | .ok signature => .ok signature
  | .error e => .error (.failed ("RSA signing failed: signature error: " ++ e.message))

def Signer.ofKey (key : Rsa.PrivateKey) (chain : List Bytes) (algorithm : Algorithm) : Signer :=
  ⟨algorithm, .ok chain, signWithKey key algorithm⟩

/-- The private key of a text: inside its identification or else bare. -/
def readKey (text : Bytes) : Option Rsa.PrivateKey :=
  match (Pem.content "PRIVATE KEY" text).bind Rsa.PrivateKey.ofInfo? with
  | some key => some key
  | none => (Pem.content "RSA PRIVATE KEY" text).bind Rsa.PrivateKey.ofDer?

/-- The signer of an armoured chain and an armoured key. The chain is read first. -/
def Signer.ofPem (chain key : Bytes) (algorithm : Algorithm) : Except SignerError Signer :=
  match Pem.blocks chain with
  | .error e => .error (.invalidCredentials (.badArmour e))
  | .ok [] => .error (.invalidCredentials .emptyChain)
  | .ok certificates =>
    match Utf8.decode key with
    | .error e => .error (.invalidCredentials (.keyNotText e))
    | .ok _ =>
      match readKey key with
      | none => .error (.invalidCredentials (.badKey key))
      | some key => .ok (Signer.ofKey key certificates algorithm)

end SignPost.Signing
