import SignPost.Error
import SignPost.Service.Verifier
import SignPost.Text.Pieces

/-!
# Settings

What can be configured: the fingerprint of the service, the algorithm of its signatures, and the
language of requests. Settings that were read from a document are sound: the fingerprint, if there
is one, is a fingerprint, and the language is not blank.
-/

namespace SignPost

/-- The configuration of both sides of the protocol. -/
structure Settings where
  /-- The fingerprint of the service's certificate, in digit pairs. -/
  fingerprint : Option String := none
  algorithm : Signing.Algorithm := default
  language : Option String := none
deriving DecidableEq, Repr, Inhabited

namespace Settings

/-- The anchor of the configured fingerprint, if one is configured. -/
def trustAnchor (s : Settings) : Except Error (Option TrustAnchor) :=
  match s.fingerprint with
  | none => .ok none
  | some text =>
    match TrustAnchor.ofHex text with
    | .ok anchor => .ok (some anchor)
    | .error e => .error (.badParameter (.badFingerprint e))

def isBlankText (text : String) : Bool :=
  (Text.trim text.toList).isEmpty

/-- Settings that can be used: first the fingerprint is looked at, then the language. -/
def validate (s : Settings) : Except Error Unit :=
  match s.trustAnchor with
  | .error e => .error e
  | .ok _ =>
    if (s.language.map isBlankText).getD false then .error (.badParameter .blankLanguage)
    else .ok ()

def verifier (s : Settings) : Except Error Service.Verifier :=
  match s.trustAnchor with
  | .error e => .error e
  | .ok anchor => .ok ⟨anchor, s.algorithm⟩

end Settings

end SignPost
