import SignPost.Octets

/-!
# Tagged elements

One element of the distinguished encoding: a tag, a length, and content of that length. Reading
follows certificates as they occur: a length may be written longer than necessary, and most
readers look at the tag number only. `Element.read` takes an element from the front of a byte
string and leaves the rest, so what follows an element never matters to it.
-/

namespace SignPost.Der

structure Tag where
  /-- Universal (0), application (1), context specific (2) or private (3). -/
  cls : Nat
  constructed : Bool
  number : Nat
deriving DecidableEq, Repr

/-- Tag numbers of the universal types that are read. -/
def Tag.boolean : Nat := 1
def Tag.integer : Nat := 2
def Tag.bitString : Nat := 3
def Tag.octetString : Nat := 4
def Tag.null : Nat := 5
def Tag.objectIdentifier : Nat := 6
def Tag.sequence : Nat := 16
def Tag.set : Nat := 17
def Tag.utcTime : Nat := 23
def Tag.generalizedTime : Nat := 24

/-- Reads the bytes of a long tag number, seven bits each, at most `more` of them. The number is
kept modulo `2 ^ 32`. -/
def readTagNumber (number : Nat) : (more : Nat) → Bytes → Option (Nat × Bytes)
  | 0, _ => none
  | _ + 1, [] => none
  | more + 1, b :: rest =>
    let n := (number * 128 + b.toNat % 128) % UInt32.size
    if b.toNat < 128 then some (n, rest) else readTagNumber n more rest

def readTag : Bytes → Option (Tag × Bytes)
  | [] => none
  | b :: rest =>
    let n := b.toNat
    let cls := n / 64
    let constructed := n / 32 % 2 = 1
    if n % 32 = 31 then
      match readTagNumber 0 5 rest with
      | some (number, rest) => some (⟨cls, constructed, number⟩, rest)
      | none => none
    else some (⟨cls, constructed, n % 32⟩, rest)

inductive Length where
  | definite (n : Nat)
  | indefinite
deriving DecidableEq, Repr

/-- Reads a length: one byte below 128, or a count of length bytes. -/
def readLength : Bytes → Option (Length × Bytes)
  | [] => none
  | b :: rest =>
    let n := b.toNat
    if n < 128 then some (.definite n, rest)
    else if n = 128 then some (.indefinite, rest)
    else if n = 255 then none
    else
      let count := n - 128
      let value := Octets.toNat (rest.take count)
      if rest.length < count then none
      else if value < UInt64.size then some (.definite value, rest.drop count)
      else none

/-- A tagged element: its tag, the bytes of tag and length, and its content. -/
structure Element where
  tag : Tag
  head : Bytes
  content : Bytes
deriving DecidableEq, Repr

def Element.bytes (e : Element) : Bytes :=
  e.head ++ e.content

/-- Takes an element of definite length from the front. -/
def Element.read (input : Bytes) : Option (Element × Bytes) :=
  match readTag input with
  | none => none
  | some (tag, afterTag) =>
    match readLength afterTag with
    | some (.definite n, afterLength) =>
      if afterLength.length < n then none
      else
        some (⟨tag, input.take (input.length - afterLength.length), afterLength.take n⟩,
          afterLength.drop n)
    | _ => none

def Element.readNumber (number : Nat) (input : Bytes) : Option (Element × Bytes) :=
  match Element.read input with
  | some (e, rest) => if e.tag.number = number then some (e, rest) else none
  | none => none

/-- Takes a constructed element with a given tag number: a sequence or a set. -/
def Element.readConstructed (number : Nat) (input : Bytes) : Option (Element × Bytes) :=
  match Element.readNumber number input with
  | some (e, rest) => if e.tag.constructed then some (e, rest) else none
  | none => none

/-- Takes a primitive element with a given tag number. -/
def Element.readPrimitive (number : Nat) (input : Bytes) : Option (Element × Bytes) :=
  match Element.readNumber number input with
  | some (e, rest) => if e.tag.constructed then none else some (e, rest)
  | none => none

/-- Takes an object identifier; its tag number is not looked at. -/
def Element.readIdentifier (input : Bytes) : Option (Bytes × Bytes) :=
  match Element.read input with
  | some (e, rest) => if e.tag.constructed then none else some (e.content, rest)
  | none => none

/-! ## Content up to an end marker -/

/-- How deep contents of indefinite length may be nested. -/
def maxDepth : Nat := 50

mutual

/-- Skips elements up to and including the end marker `00 00`; gives what follows. Each element
costs fuel, each level depth. -/
def skipToEnd : (fuel depth : Nat) → Bytes → Option Bytes
  | 0, _, _ => none
  | fuel + 1, depth, input =>
    match readTag input with
    | none => none
    | some (tag, afterTag) =>
      match readLength afterTag with
      | none => none
      | some (length, afterLength) =>
        match skipContent fuel depth tag length afterLength with
        | none => none
        | some (true, rest) => some rest
        | some (false, rest) => skipToEnd fuel depth rest

/-- Skips the content of an element, and tells whether the element is an end marker. -/
def skipContent : (fuel depth : Nat) → Tag → Length → Bytes → Option (Bool × Bytes)
  | 0, _, _, _, _ => none
  | _ + 1, 0, _, _, _ => none
  | fuel + 1, depth + 1, tag, length, input =>
    match length with
    | .definite n =>
      if n = 0 ∧ tag.number = 0 then some (true, input)
      else if input.length < n then none
      else some (false, input.drop n)
    | .indefinite =>
      if tag.constructed then
        match skipToEnd fuel depth input with
        | some rest => some (false, rest)
        | none => none
      else none

end

/-- Takes an element whose length may be indefinite, as the content of its tag. -/
def Element.readLoose (input : Bytes) : Option (Element × Bytes) :=
  match readTag input with
  | none => none
  | some (tag, afterTag) =>
    match readLength afterTag with
    | none => none
    | some (length, start) =>
      let head := input.take (input.length - start.length)
      match skipContent (4 * input.length + 8) maxDepth tag length start with
      | none => none
      | some (_, rest) =>
        let size := start.length - rest.length
        match length with
        | .definite _ => some (⟨tag, head, start.take size⟩, rest)
        | .indefinite => some (⟨tag, head, start.take (size - 2)⟩, rest)

end SignPost.Der
