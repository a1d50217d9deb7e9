import SignPost.Hash.Sha1
import SignPost.Hash.Sha2

/-!
# Signature algorithms

The four algorithms: RSA with the padding of version 1.5 over a digest of SHA-1, SHA-256, SHA-384
or SHA-512. What is padded is the digest behind the identification of its hash function, and no
identification is the beginning of another. Which hash function an algorithm goes with is said
twice, by the signer and by the validator.
-/

namespace SignPost.Signing

inductive HashFunction where
  | sha1
  | sha256
  | sha384
  | sha512
deriving DecidableEq, Repr

namespace HashFunction

def digest : HashFunction → Bytes → Bytes
  | sha1, message => Hash.Sha1.digest message
  | sha256, message => Hash.Sha2.digest Hash.Sha2.sha256 message
  | sha384, message => Hash.Sha2.digest Hash.Sha2.sha384 message
  | sha512, message => Hash.Sha2.digest Hash.Sha2.sha512 message

/-- What stands before a digest to identify its hash function. -/
def identification : HashFunction → Bytes
  | sha1 =>
    [0x30, 0x21, 0x30, 0x09, 0x06, 0x05, 0x2b, 0x0e, 0x03, 0x02, 0x1a, 0x05, 0x00, 0x04, 0x14]
  | sha256 =>
    [0x30, 0x31, 0x30, 0x0d, 0x06, 0x09, 0x60, 0x86, 0x48, 0x01, 0x65, 0x03, 0x04, 0x02, 0x01, 0x05,
      0x00, 0x04, 0x20]
  | sha384 =>
    [0x30, 0x41, 0x30, 0x0d, 0x06, 0x09, 0x60, 0x86, 0x48, 0x01, 0x65, 0x03, 0x04, 0x02, 0x02, 0x05,
      0x00, 0x04, 0x30]
  | sha512 =>
    [0x30, 0x51, 0x30, 0x0d, 0x06, 0x09, 0x60, 0x86, 0x48, 0x01, 0x65, 0x03, 0x04, 0x02, 0x03, 0x05,
      0x00, 0x04, 0x40]

/-- The digest of a message behind its identification. -/
def identified (h : HashFunction) (message : Bytes) : Bytes :=
  h.identification ++ h.digest message

end HashFunction

/-- A signature algorithm, named by the size of its digest. -/
inductive Algorithm where
  | rs1
  | rs256
  | rs384
  | rs512
deriving DecidableEq, Repr

namespace Algorithm

def all : List Algorithm := [rs1, rs256, rs384, rs512]

/-- Where nothing else is said, digests are those of SHA-1. -/
instance : Inhabited Algorithm := ⟨rs1⟩

def name : Algorithm → String
  | rs1 => "rs1"
  | rs256 => "rs256"
  | rs384 => "rs384"
  | rs512 => "rs512"

def title : Algorithm → String
  | rs1 => "Rs1"
  | rs256 => "Rs256"
  | rs384 => "Rs384"
  | rs512 => "Rs512"

def ofName? (text : String) : Option Algorithm :=
  all.find? fun a => a.name = text

theorem ofName?_name (a : Algorithm) : ofName? a.name = some a := by
  cases a <;> decide

theorem name_injective {a b : Algorithm} (h : a.name = b.name) : a = b := by
  have hread : ofName? a.name = ofName? b.name := by rw [h]
  rwa [ofName?_name, ofName?_name, Option.some.injEq] at hread

def unknownMessage (text : String) : String :=
  "UnknownAlgorithmError(" ++ text ++ ")"

/-- The hash function that a signer takes. -/
def hash : Algorithm → HashFunction
  | rs1 => .sha1
  | rs256 => .sha256
  | rs384 => .sha384
  | rs512 => .sha512

def digest (a : Algorithm) (message : Bytes) : Bytes :=
  a.hash.digest message

end Algorithm

end SignPost.Signing
