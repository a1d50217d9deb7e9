import SignPost.Certificate.Basic

/-!
# Trust anchors

A trust anchor is the fingerprint of the one certificate that a service may sign with. Only this
certificate is pinned; no path to an issuer is built.
-/

namespace SignPost

def Hex.Error.message : Hex.Error → String
  | .oddLength => "Odd number of digits"
  | .badDigit byte offset =>
    "Invalid character " ++ Text.quotedLetter (Char.ofNat byte.toNat) ++ " at position " ++
      toString offset

structure TrustAnchor where
  fingerprint : Bytes
  length_fingerprint : fingerprint.length = 20
deriving DecidableEq, Repr

namespace TrustAnchor

inductive Error where
  /-- What is left without separators is not hexadecimal. -/
  | badHex (cause : Hex.Error)
  | badLength (count : Nat)
deriving DecidableEq, Repr

def Error.message : Error → String
  | .badHex cause => "invalid fingerprint hex: " ++ cause.message
  | .badLength count => "fingerprint must be 20 bytes, got " ++ toString count

/-- A character that may stand between the digits. -/
def isSeparator (c : Char) : Bool :=
  Text.isAsciiBlank c || c = ':'

def ofBytes (bytes : Bytes) : Except Error TrustAnchor :=
  if h : bytes.length = 20 then .ok ⟨bytes, h⟩ else .error (.badLength bytes.length)

/-- The anchor of a fingerprint in digit pairs, separators anywhere. -/
def ofHex (text : String) : Except Error TrustAnchor :=
  match Hex.decode (Utf8.encode (text.toList.filter fun c => !isSeparator c)) with
  | .error e => .error (.badHex e)
  | .ok bytes => ofBytes bytes

def ofCertificate (c : Certificate) : TrustAnchor :=
  ⟨c.fingerprint, Hash.Sha1.length_digest c.der⟩

/-- The anchor pins the certificate with these bytes. -/
def isMatch (anchor : TrustAnchor) (der : Bytes) : Bool :=
  Hash.Sha1.digest der = anchor.fingerprint

def toHex (anchor : TrustAnchor) : String :=
  Hex.encode anchor.fingerprint

def describe (anchor : TrustAnchor) : String :=
  "TrustAnchor(" ++ anchor.toHex ++ ")"

end TrustAnchor

end SignPost
