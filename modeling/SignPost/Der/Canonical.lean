import SignPost.Octets

/-!
# Canonical elements

The strict reading of the distinguished encoding, for keys: every length is written as short as
possible, tags are compared whole, and numbers have no superfluous bytes.
-/

namespace SignPost.Der.Canonical

def integer : UInt8 := 0x02
def bitString : UInt8 := 0x03
def octetString : UInt8 := 0x04
def null : UInt8 := 0x05
def objectIdentifier : UInt8 := 0x06
def sequence : UInt8 := 0x30

def takeLength : Bytes → Option (Nat × Bytes)
  | [] => none
  | b :: rest =>
    let n := b.toNat
    if n < 128 then some (n, rest)
    else
      let count := n - 128
      let value := Octets.toNat (rest.take count)
      if count = 0 ∨ rest.length < count then none
      else if value < 128 ∨ Octets.byteLength value ≠ count then none
      else some (value, rest.drop count)

/-- Takes an element: its tag byte and its content. -/
def takeAny : Bytes → Option ((UInt8 × Bytes) × Bytes)
  | [] => none
  | tag :: afterTag =>
    match takeLength afterTag with
    | some (n, rest) =>
      if rest.length < n then none else some ((tag, rest.take n), rest.drop n)
    | none => none

/-- Takes the content of an element with a given tag byte. -/
def take (tag : UInt8) (input : Bytes) : Option (Bytes × Bytes) :=
  match takeAny input with
  | some ((found, content), rest) => if found = tag then some (content, rest) else none
  | none => none

/-- The content of the one element that the input consists of. -/
def whole (tag : UInt8) (input : Bytes) : Option Bytes :=
  match take tag input with
  | some (content, []) => some content
  | _ => none

def natural : Bytes → Option Nat
  | [] => none
  | [b] => if b.toNat < 128 then some b.toNat else none
  | a :: b :: rest =>
    if 128 ≤ a.toNat ∨ (a = 0 ∧ b.toNat < 128) then none else some (Octets.toNat (a :: b :: rest))

def takeNatural (input : Bytes) : Option (Nat × Bytes) :=
  match take integer input with
  | some (content, rest) => (natural content).map (·, rest)
  | none => none

end SignPost.Der.Canonical
