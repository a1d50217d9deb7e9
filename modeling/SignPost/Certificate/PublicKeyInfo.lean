import SignPost.Der.Element

/-!
# Public keys in certificates

A public key with the identification of its algorithm, as the bytes that a validator is given. A
bit string states how many bits of its last byte do not count, and these have to be zero.
-/

namespace SignPost.Certificate

open Der (Element Tag)

/-- The bits from the lowest on that are zero; eight for the byte zero. -/
def trailingZeros (n : Nat) : Nat :=
  if n = 0 then 8
  else ((List.range 8).find? fun i => n.testBit i).getD 0

/-- The content of a bit string: the number of bits that do not count, then the bits. -/
def validBits : Bytes → Bool
  | [] => false
  | [unused] => unused = 0
  | unused :: rest =>
    match rest.getLast? with
    | some last => unused.toNat ≤ 8 && unused.toNat ≤ trailingZeros last.toNat
    | none => false

def readBits (input : Bytes) : Option (Element × Bytes) := do
  let (bits, rest) ← Element.readPrimitive Tag.bitString input
  if validBits bits.content then some (bits, rest) else none

/-- Takes the identification of an algorithm: its type, and parameters of any form. -/
def readAlgorithm (input : Bytes) : Option (Bytes × Bytes) := do
  let (algorithm, rest) ← Element.readConstructed Tag.sequence input
  let (type, parameters) ← Element.readIdentifier algorithm.content
  if parameters.isEmpty then some (type, rest)
  else
    let _ ← Element.read parameters
    some (type, rest)

/-- The type of RSA keys, `1.2.840.113549.1.1.1`. -/
def rsaType : Bytes := [0x2a, 0x86, 0x48, 0x86, 0xf7, 0x0d, 1, 1, 1]

/-- A public key: the type of its algorithm, and the bytes of the whole structure up to the end of
the key. -/
structure PublicKeyInfo where
  algorithm : Bytes
  bytes : Bytes
deriving DecidableEq, Repr

def PublicKeyInfo.isRsa (info : PublicKeyInfo) : Bool :=
  info.algorithm = rsaType

def readPublicKey (input : Bytes) : Option (PublicKeyInfo × Bytes) := do
  let (info, rest) ← Element.readConstructed Tag.sequence input
  let (algorithm, afterAlgorithm) ← readAlgorithm info.content
  let (_, afterKey) ← readBits afterAlgorithm
  let used := info.content.take (info.content.length - afterKey.length)
  some (⟨algorithm, info.head ++ used⟩, rest)

end SignPost.Certificate
