import SignPost.Rsa.Key
import SignPost.Der.Canonical

/-!
# Encoded keys

RSA keys as they are stored: a public key inside its identification, and a private key either
bare or inside its identification. Reading is strict; a key with more than two primes is refused.
-/

namespace SignPost.Rsa

open Der

/-- The identification of an RSA key: its type, `1.2.840.113549.1.1.1`, and no parameters. -/
def keyAlgorithm : Bytes :=
  [0x06, 0x09, 0x2a, 0x86, 0x48, 0x86, 0xf7, 0x0d, 0x01, 0x01, 0x01, 0x05, 0x00]

def PublicKey.ofDer? (input : Bytes) : Option PublicKey := do
  let numbers ← Canonical.whole Canonical.sequence input
  let (modulus, rest) ← Canonical.takeNatural numbers
  let (exponent, rest) ← Canonical.takeNatural rest
  if rest.isEmpty then some ⟨modulus, exponent⟩ else none

def PublicKey.ofInfo? (input : Bytes) : Option PublicKey := do
  let info ← Canonical.whole Canonical.sequence input
  let (algorithm, rest) ← Canonical.take Canonical.sequence info
  match ← Canonical.whole Canonical.bitString rest with
  | 0 :: key => if algorithm = keyAlgorithm then PublicKey.ofDer? key else none
  | _ => none

/-- The key of a version, eight numbers and nothing else; the last three are not used. -/
def PrivateKey.ofDer? (input : Bytes) : Option PrivateKey := do
  let numbers ← Canonical.whole Canonical.sequence input
  let (version, rest) ← Canonical.takeNatural numbers
  let (modulus, rest) ← Canonical.takeNatural rest
  let (publicExponent, rest) ← Canonical.takeNatural rest
  let (privateExponent, rest) ← Canonical.takeNatural rest
  let (firstPrime, rest) ← Canonical.takeNatural rest
  let (secondPrime, rest) ← Canonical.takeNatural rest
  let (_, rest) ← Canonical.takeNatural rest
  let (_, rest) ← Canonical.takeNatural rest
  let (_, rest) ← Canonical.takeNatural rest
  let key : PrivateKey := ⟨⟨modulus, publicExponent⟩, privateExponent, firstPrime, secondPrime⟩
  if version = 0 ∧ rest.isEmpty ∧ key.wellFormed then some key else none

/-- Elements that may follow a key: context tags around one element each. -/
def attributesOnly : (fuel : Nat) → Bytes → Bool
  | 0, input => input.isEmpty
  | fuel + 1, input =>
    input.isEmpty ||
      match Canonical.takeAny input with
      | some ((tag, content), rest) =>
        tag.toNat / 32 = 5 && tag.toNat % 32 ≠ 31 &&
          (match Canonical.takeAny content with
          | some (_, []) => true
          | _ => false) && attributesOnly fuel rest
      | none => false

/-- Drops the public key that a key of the second version carries, and what stands before it. -/
def dropPublicKey : (fuel : Nat) → Bytes → Option Bytes
  | 0, _ => none
  | fuel + 1, input =>
    match Canonical.takeAny input with
    | some ((tag, content), rest) =>
      if tag = 0x81 then if content.head? = some 0 then some rest else none
      else if tag = 0x80 ∨ tag = 0xa0 then dropPublicKey fuel rest
      else none
    | none => none

def PrivateKey.ofInfo? (input : Bytes) : Option PrivateKey := do
  let info ← Canonical.whole Canonical.sequence input
  let (version, rest) ← Canonical.takeNatural info
  let (algorithm, rest) ← Canonical.take Canonical.sequence rest
  let (key, rest) ← Canonical.take Canonical.octetString rest
  let rest ←
    if version = 0 then some rest
    else if version = 1 then dropPublicKey rest.length rest
    else none
  if algorithm = keyAlgorithm ∧ attributesOnly rest.length rest then PrivateKey.ofDer? key else none

end SignPost.Rsa
