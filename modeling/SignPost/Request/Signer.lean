import SignPost.Request.Basic

/-!
# Signing requests

Signing a request is optional. Without a signer, or with one that has no certificates, a request is
sent unsigned; every other failure is a failure of the request, never a reason to send it unsigned.
-/

namespace SignPost

structure RequestSigner where
  signer : Option Signing.Signer

namespace RequestSigner

/-- The certificates of a chain, or the first failure. -/
def readChain : List Bytes → Except Certificate.Error (List Certificate)
  | [] => .ok []
  | der :: rest =>
    match Certificate.ofDer der with
    | .error e => .error e
    | .ok c =>
      match readChain rest with
      | .error e => .error e
      | .ok more => .ok (c :: more)

/-- Signs a request with a signer and the chain that it gave. -/
def signWith (check : Url.Check) (signer : Signing.Signer) (chain : List Bytes) (r : Request) :
    Except Error Service.Signature :=
  match r.validate check with
  | .error e => .error e
  | .ok () =>
    match signer.sign (Service.canonicalBytes r.signedNames r) with
    | .error e => .error (.signer e)
    | .ok value =>
      match readChain chain with
      | .error e => .error (.signer (.invalidCredentials (.badCertificate e)))
      | .ok certificates =>
        match Service.Signature.ofChain ⟨r.signedNames⟩ value certificates with
        | .ok s => .ok s
        | .error e => .error (.malformedServiceSignature e)

def sign (check : Url.Check) (s : RequestSigner) (r : Request) :
    Except Error Service.Signature :=
  match s.signer with
  | none => .error .missingKeyMaterial
  | some signer =>
    match signer.chain with
    | .error e => .error (.signer e)
    | .ok [] => .error .missingKeyMaterial
    | .ok chain => signWith check signer chain r

/-- The form of a request, signed where there is a key. -/
def toForm (check : Url.Check) (s : RequestSigner) (r : Request) : Except Error Form :=
  match s.sign check r with
  | .ok signature => r.toForm check (some signature)
  | .error .missingKeyMaterial => r.toForm check none
  | .error e => .error e

def describe (s : RequestSigner) : String :=
  let algorithm :=
    match s.signer with
    | some signer => "Some(" ++ signer.algorithm.title ++ ")"
    | none => "None"
  "RequestSigner \x7b alg: " ++ algorithm ++ " \x7d"

end RequestSigner

end SignPost
