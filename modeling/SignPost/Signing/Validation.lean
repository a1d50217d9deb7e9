import SignPost.Certificate.PublicKeyInfo
import SignPost.Rsa.KeyFile
import SignPost.Rsa.Signature
import SignPost.Signing.Algorithm

/-!
# Validating signatures

A signature over a message is checked under the public key of a certificate. The key is looked at
first: it has to be a public key, then one for RSA, then a usable one in its canonical encoding.
-/

namespace SignPost.Signing

inductive ValidationError where
  /-- The signature does not open to the digest of the message. -/
  | mismatch
  | invalidPublicKey
  | unsupportedAlgorithm
deriving DecidableEq, Repr

def ValidationError.message : ValidationError → String
  | .mismatch => "the signature does not match the provided data or public key"
  | .invalidPublicKey => "invalid public key"
  | .unsupportedAlgorithm => "signature algorithm not supported"

/-- The key of a public key structure, if it is one that signatures are checked with. -/
def usableKey (publicKey : Bytes) : Except ValidationError Rsa.PublicKey :=
  match Certificate.readPublicKey publicKey with
  | none => .error .invalidPublicKey
  | some (info, _) =>
    if info.isRsa then
      match Rsa.PublicKey.ofInfo? publicKey with
      | some key => if key.usable then .ok key else .error .invalidPublicKey
      | none => .error .invalidPublicKey
    else .error .unsupportedAlgorithm

/-- The validators that are built in, by the hash function of each. -/
inductive Validator where
  | sha1
  | rsa256
  | rsa384
  | rsa512
deriving DecidableEq, Repr

namespace Validator

def hash : Validator → HashFunction
  | sha1 => .sha1
  | rsa256 => .sha256
  | rsa384 => .sha384
  | rsa512 => .sha512

def validate (v : Validator) (publicKey message signature : Bytes) : Except ValidationError Unit :=
  match usableKey publicKey with
  | .error e => .error e
  | .ok key =>
    if key.accepts (v.hash.identified message) signature then .ok () else .error .mismatch

/-- The validator of an algorithm. -/
def ofAlgorithm? : Algorithm → Option Validator
  | .rs1 => some sha1
  | .rs256 => some rsa256
  | .rs384 => some rsa384
  | .rs512 => some rsa512

end Validator

/-- Validates a signature with the validator of an algorithm. -/
def validate (algorithm : Algorithm) (publicKey message signature : Bytes) :
    Except ValidationError Unit :=
  match Validator.ofAlgorithm? algorithm with
  | some v => v.validate publicKey message signature
  | none => .error .unsupportedAlgorithm

end SignPost.Signing
