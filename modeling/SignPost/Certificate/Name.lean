import SignPost.Text.Utf8
import SignPost.Der.Element

/-!
# Names in certificates

A name is a list of sets of attributes, each a type and a value. It is shown as
`CN=Alice + OU=x, O=y, C=BE`: types by a short name where they have one, values as text where
their form is a text form, and otherwise as hexadecimal digits.
-/

namespace SignPost.Certificate

open Der (Element Tag)

/-- An attribute of a name: the bytes of its type and its value. -/
structure Attribute where
  type : Bytes
  value : Element
deriving DecidableEq, Repr

/-- Attribute types below `2.5.4` by their last number. -/
def directoryTypes : List (UInt8 × String) :=
  [(0, "objectClass"), (1, "aliasedEntryName"), (2, "knowledgeInformation"), (3, "CN"),
    (4, "surname"), (5, "serialNumber"), (6, "C"), (7, "L"), (8, "ST"), (9, "streetAddress"),
    (10, "O"), (11, "OU"), (12, "title"), (13, "description"), (14, "searchGuide"),
    (15, "businessCategory"), (16, "postalAddress"), (17, "postalCode"), (41, "name"),
    (42, "givenName"), (43, "initials"), (44, "generationQualifier"), (45, "uniqueIdentifier"),
    (46, "dnQualifier")]

/-- Attribute types below `1.2.840.113549.1.9` by their last number. -/
def mailTypes : List (UInt8 × String) :=
  [(1, "Email"), (2, "unstructuredName"), (3, "contentType"), (4, "id-messageDigest"),
    (5, "signing-time"), (7, "challengePassword"), (14, "extensionRequest"),
    (15, "smimeCapabilities"), (20, "friendlyName")]

def shortName : Bytes → Option String
  | [0x55, 4, n] => directoryTypes.lookup n
  | [0x2a, 0x86, 0x48, 0x86, 0xf7, 0x0d, 1, 9, n] => mailTypes.lookup n
  | [9, 0x92, 0x26, 0x89, 0x93, 0xf2, 0x2c, 0x64, 1, 25] => some "DC"
  | _ => none

/-! ## Object identifiers -/

/-- The numbers that groups of seven bits spell, each group but the last of a number marked. An
unfinished number at the end counts; numbers are kept modulo `2 ^ 64`. -/
def arcsFrom (high : Nat) (open_ : Bool) : Bytes → List Nat
  | [] => if open_ then [high] else []
  | b :: rest =>
    let n := (high * 128 + b.toNat % 128) % UInt64.size
    if b.toNat < 128 then n :: arcsFrom 0 false rest else arcsFrom n true rest

/-- The greatest number of bytes in a finished number. -/
def longestArc (size longest : Nat) : Bytes → Nat
  | [] => longest
  | b :: rest =>
    if b.toNat < 128 then longestArc 0 (max longest (size + 1)) rest
    else longestArc (size + 1) longest rest

/-- An object identifier in dotted form; as plain bytes where a number has ten bytes or more. -/
def dotted : Bytes → String
  | [] => ""
  | [0] => "0"
  | first :: rest =>
    if 10 ≤ longestArc 0 0 rest then Hex.encodeSeparated " " (first :: rest)
    else
      ".".intercalate ((first.toNat / 40 :: first.toNat % 40 :: arcsFrom 0 false rest).map toString)

def typeText (type : Bytes) : String :=
  (shortName type).getD ("OID(" ++ dotted type ++ ")")

/-! ## Values -/

/-- Units of two bytes; a last odd byte is a unit of its own. -/
def pairUnits : Bytes → List Nat
  | [] => []
  | [a] => [a.toNat]
  | a :: b :: rest => (a.toNat * 256 + b.toNat) :: pairUnits rest

def wideText : Bytes → Option (List Char)
  | [] => some []
  | a :: b :: c :: d :: rest =>
    let n := ((a.toNat * 256 + b.toNat) * 256 + c.toNat) * 256 + d.toNat
    if n.isValidChar then (wideText rest).map (Char.ofNat n :: ·) else none
  | _ => none

/-- The tag numbers of strings that are read as UTF-8. -/
def textTags : List Nat := [7, 12, 18, 19, 20, 21, 22, 25, 26, 27]

/-- A value as it is shown; absent for a text that cannot be read. -/
def valueText (value : Element) : Option String :=
  if textTags.contains value.tag.number then (Utf8.decode? value.content).map String.ofList
  else if value.tag.number = 30 then (Utf16.decode (pairUnits value.content)).map String.ofList
  else if value.tag.number = 28 then (wideText value.content).map String.ofList
  else some (Hex.encodeUpper value.content)

/-! ## Names -/

def readAttribute (input : Bytes) : Option (Attribute × Bytes) := do
  let (pair, rest) ← Element.readConstructed Tag.sequence input
  let (type, afterType) ← Element.readIdentifier pair.content
  let (value, _) ← Element.read afterType
  some (⟨type, value⟩, rest)

/-- Takes elements of one kind for as long as they can be read. -/
def readMany (read : Bytes → Option (α × Bytes)) : (fuel : Nat) → Bytes → List α
  | 0, _ => []
  | fuel + 1, input =>
    match read input with
    | some (a, rest) => a :: readMany read fuel rest
    | none => []

def readAttributeSet (input : Bytes) : Option (List Attribute × Bytes) := do
  let (set, rest) ← Element.readConstructed Tag.set input
  match readMany readAttribute set.content.length set.content with
  | [] => none
  | attributes => some (attributes, rest)

def readName (input : Bytes) : Option (List (List Attribute) × Bytes) := do
  let (name, rest) ← Element.readConstructed Tag.sequence input
  some (readMany readAttributeSet name.content.length name.content, rest)

def attributeText (a : Attribute) : Option String :=
  (valueText a.value).map fun text => typeText a.type ++ "=" ++ text

/-- What is shown for a name with a text that cannot be read. -/
def unreadableName : String := "<X509Error: Invalid X.509 name>"

def nameText (name : List (List Attribute)) : String :=
  match name.mapM fun set => set.mapM attributeText with
  | some sets => ", ".intercalate (sets.map (" + ".intercalate ·))
  | none => unreadableName

end SignPost.Certificate
