import SignPost.Service.Signature
import SignPost.Signing.Validation

/-!
# Verifying service signatures

A verifier has one algorithm and, optionally, a trust anchor. With an anchor, a signature is needed
and its certificate has to be the pinned one; the signature itself is checked first.
-/

namespace SignPost.Service

structure Verifier where
  anchor : Option TrustAnchor := none
  algorithm : Signing.Algorithm := default
deriving DecidableEq, Repr, Inhabited

namespace Verifier

/-- The value of the signature is valid for the message. -/
def covers (validator : Signing.Validator) (s : Signature) (message : Bytes) : Bool :=
  (validator.validate s.leaf.publicKey.bytes message s.value).isOk

/-- The certificate is the pinned one, if one is pinned. -/
def trusts (v : Verifier) (c : Certificate) : Bool :=
  match v.anchor with
  | some anchor => anchor.isMatch c.der
  | none => true

/-- Verifies a service signature over the values of a source. -/
def verify [FieldSource α] (v : Verifier) (signature : Option Signature) (source : α) :
    Except Error Unit :=
  match signature with
  | none => if v.anchor.isSome then .error .serviceSignatureMissing else .ok ()
  | some s =>
    match Signing.Validator.ofAlgorithm? v.algorithm with
    | none => .error (.badParameter (.unsupportedAlgorithm v.algorithm.name))
    | some validator =>
      if !covers validator s (s.signed.canonical source) then .error .serviceSignatureInvalid
      else if !v.trusts s.leaf then .error .fingerprintMismatch
      else .ok ()

end Verifier

end SignPost.Service
