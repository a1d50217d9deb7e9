import SignPost.Text.Base64
import SignPost.Text.Quoted
import SignPost.Hash.Sha1
import SignPost.Certificate.Name
import SignPost.Certificate.PublicKeyInfo
import SignPost.Certificate.Time

/-!
# Certificates

A certificate is read from the front of a byte string, and what follows it is dropped: its bytes,
and so its fingerprint, are those of the structure alone. The attributes that are needed later are
taken out once.
-/

namespace SignPost

open Der (Element Tag)

/-- A certificate: its bytes and what was read from them. Validity is in Unix seconds. -/
structure Certificate where
  der : Bytes
  subject : String
  issuer : String
  serial : String
  publicKey : Certificate.PublicKeyInfo
  notBefore : Int
  notAfter : Int
deriving DecidableEq, Repr

namespace Certificate

/-- Takes an optional element with a context tag. Another element is left in place; the tag
number in another class is a fault. -/
def readOptional (number : Nat) (input : Bytes) : Option (Option Element × Bytes) :=
  if input.isEmpty then some (none, input)
  else
    match Element.read input with
    | none => none
    | some (e, rest) =>
      if e.tag.number ≠ number then some (none, input)
      else if e.tag.cls = 2 then some (some e, rest)
      else none

/-- The version is a number without sign, of at most four bytes and in its shortest form. -/
def validVersion (input : Bytes) : Bool :=
  match Element.readPrimitive Tag.integer input with
  | some (⟨_, _, [a]⟩, _) => a.toNat < 128
  | some (⟨_, _, a :: b :: rest⟩, _) =>
    rest.length ≤ 3 && a.toNat < 128 && (a ≠ 0 || (128 ≤ b.toNat))
  | _ => false

def dropVersion (input : Bytes) : Option Bytes := do
  match ← readOptional 0 input with
  | (none, rest) => some rest
  | (some version, rest) => if validVersion version.content then some rest else none

/-- Drops an optional unique identifier, which may not be empty. -/
def dropUniqueId (number : Nat) (input : Bytes) : Option Bytes := do
  match ← readOptional number input with
  | (none, rest) => some rest
  | (some id, rest) => if id.content.isEmpty then none else some rest

/-- Takes an extension: a type, whether it is critical, and a value. -/
def readExtension (input : Bytes) : Option (Unit × Bytes) := do
  let (extension, rest) ← Element.readConstructed Tag.sequence input
  let (_, afterType) ← Element.readIdentifier extension.content
  let afterCritical :=
    match Element.readPrimitive Tag.boolean afterType with
    | some (⟨_, _, [b]⟩, rest) => if b = 0 ∨ b = 255 then rest else afterType
    | _ => afterType
  let _ ← Element.readPrimitive Tag.octetString afterCritical
  some ((), rest)

/-- The input is a list of extensions and nothing else. -/
def allExtensions : (fuel : Nat) → Bytes → Bool
  | 0, input => input.isEmpty
  | fuel + 1, input =>
    input.isEmpty ||
      match readExtension input with
      | some (_, rest) => allExtensions fuel rest
      | none => false

/-- What ends the signed part: nothing, or a wrapped list of extensions. -/
def validExtensions (input : Bytes) : Bool :=
  input.isEmpty ||
    match Der.readTag input with
    | none => false
    | some (tag, afterTag) =>
      match Der.readLength afterTag with
      | some (.definite _, afterLength) =>
        tag.number = 3 &&
          match Element.readConstructed Tag.sequence afterLength with
          | some (list, []) => allExtensions list.content.length list.content
          | _ => false
      | _ => false

def readValidity (input : Bytes) : Option (Int × Int × Bytes) := do
  let (validity, rest) ← Element.readConstructed Tag.sequence input
  let (notBefore, afterFirst) ← readTime validity.content
  let (notAfter, _) ← readTime afterFirst
  some (notBefore, notAfter, rest)

/-- The certificate with these bytes and this signed part. -/
def ofSigned (der signed : Bytes) : Option Certificate := do
  let rest ← dropVersion signed
  let (serial, rest) ← Element.readLoose rest
  if serial.tag.number ≠ Tag.integer then none
  let (_, rest) ← readAlgorithm rest
  let (issuer, rest) ← readName rest
  let (notBefore, notAfter, rest) ← readValidity rest
  let (subject, rest) ← readName rest
  let (publicKey, rest) ← readPublicKey rest
  let rest ← dropUniqueId 1 rest
  let rest ← dropUniqueId 2 rest
  if validExtensions rest then
    some ⟨der, nameText subject, nameText issuer, Hex.encodeSeparated ":" serial.content,
      publicKey, notBefore, notAfter⟩
  else none

/-- The certificate at the front of a byte string. -/
def ofDer? (input : Bytes) : Option Certificate := do
  let (outer, _) ← Element.readConstructed Tag.sequence input
  let (signed, rest) ← Element.readConstructed Tag.sequence outer.content
  let (_, rest) ← readAlgorithm rest
  let _ ← readBits rest
  ofSigned outer.bytes signed.content

inductive Error where
  | invalidBase64 (detail : String)
  /-- No certificate stands at the front of these bytes. -/
  | malformed (der : Bytes)
deriving DecidableEq, Repr

/-- The wording of a failure; what is wrong with bytes that are no certificate is said by
`describe`. -/
def Error.message (describe : Bytes → String) : Error → String
  | .invalidBase64 detail => "certificate is not valid base64 (" ++ detail ++ ")"
  | .malformed der => "not an X.509 certificate (" ++ describe der ++ ")"

/-- The certificate at the front of a byte string, or why there is none. -/
def ofDer (input : Bytes) : Except Error Certificate :=
  match ofDer? input with
  | some c => .ok c
  | none => .error (.malformed input)

def ofBase64 (text : String) : Except Error Certificate :=
  match Base64.decodeForm text with
  | .ok bytes => ofDer bytes
  | .error e => .error (.invalidBase64 e.message)

def toBase64 (c : Certificate) : String :=
  Base64.encode c.der

def fingerprint (c : Certificate) : Bytes :=
  Hash.Sha1.digest c.der

def describe (c : Certificate) : String :=
  "Certificate \x7b subject: " ++ Text.quoted c.subject ++ ", issuer: " ++ Text.quoted c.issuer ++
    ", serial: " ++ Text.quoted c.serial ++ ", .. \x7d"

end Certificate

end SignPost
