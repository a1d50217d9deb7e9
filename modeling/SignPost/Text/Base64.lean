import SignPost.Text.Utf8
import SignPost.Text.Pieces

/-!
# Base64

The standard alphabet with padding. Reading is strict: every text that is accepted is the one
encoding of its bytes, so padding has to be complete, the bits that padding stands for have to be
zero, and nothing but the 64 symbols may stand before it. Form values may be wrapped in ASCII
blanks anywhere; `decodeForm` drops them first, and offsets in its errors count what is left.
Only `decodeOpen?` takes texts whose padding was left out.
-/

namespace SignPost.Base64

def pad : UInt8 := 61

def symbol (n : Nat) : UInt8 :=
  if n < 26 then UInt8.ofNat (65 + n)
  else if n < 52 then UInt8.ofNat (71 + n)
  else if n < 62 then UInt8.ofNat (n - 4)
  else if n = 62 then 43
  else 47

def value (b : UInt8) : Option Nat :=
  let n := b.toNat
  if 65 ≤ n ∧ n ≤ 90 then some (n - 65)
  else if 97 ≤ n ∧ n ≤ 122 then some (n - 71)
  else if 48 ≤ n ∧ n ≤ 57 then some (n + 4)
  else if n = 43 then some 62
  else if n = 47 then some 63
  else none

/-- The symbols of a byte string, three bytes to four symbols. -/
def symbols : Bytes → Bytes
  | [] => []
  | [a] => [symbol (a.toNat / 4), symbol (a.toNat % 4 * 16), pad, pad]
  | [a, b] =>
    [symbol (a.toNat / 4), symbol (a.toNat % 4 * 16 + b.toNat / 16),
      symbol (b.toNat % 16 * 4), pad]
  | a :: b :: c :: rest =>
    symbol (a.toNat / 4) :: symbol (a.toNat % 4 * 16 + b.toNat / 16) ::
      symbol (b.toNat % 16 * 4 + c.toNat / 64) :: symbol (c.toNat % 64) :: symbols rest

def encode (bytes : Bytes) : String :=
  String.ofList ((symbols bytes).map fun b => Char.ofNat b.toNat)

inductive Error where
  | badSymbol (offset : Nat) (byte : UInt8)
  | badLength (count : Nat)
  /-- The last symbol sets bits that belong to no byte. -/
  | badLastSymbol (offset : Nat) (byte : UInt8)
  | badPadding
deriving DecidableEq, Repr

def Error.message : Error → String
  | .badSymbol offset byte =>
    "Invalid symbol " ++ toString byte.toNat ++ ", offset " ++ toString offset ++ "."
  | .badLength count => "Invalid input length: " ++ toString count
  | .badLastSymbol offset byte =>
    "Invalid last symbol " ++ toString byte.toNat ++ ", offset " ++ toString offset ++ "."
  | .badPadding => "Invalid padding"

/-- The values of symbols, or the first byte that is none. -/
def values (offset : Nat) : Bytes → Except Error (List Nat)
  | [] => .ok []
  | b :: rest =>
    match value b with
    | none => .error (.badSymbol offset b)
    | some v =>
      match values (offset + 1) rest with
      | .ok vs => .ok (v :: vs)
      | .error e => .error e

/-- The bytes of the values in a last group that needs `length` symbols with its padding. -/
def lastBytes (offset : Nat) (group : Bytes) : List Nat → Except Error Bytes
  | [] => .ok []
  | [_] => .error (.badLength (offset + 1))
  | [v, w] =>
    if group.length % 4 ≠ 0 then .error .badPadding
    else if w % 16 ≠ 0 then .error (.badLastSymbol (offset + 1) (group.getD 1 pad))
    else .ok [UInt8.ofNat (v * 4 + w / 16)]
  | [v, w, x] =>
    if group.length % 4 ≠ 0 then .error .badPadding
    else if x % 4 ≠ 0 then .error (.badLastSymbol (offset + 2) (group.getD 2 pad))
    else .ok [UInt8.ofNat (v * 4 + w / 16), UInt8.ofNat (w % 16 * 16 + x / 4)]
  | v :: w :: x :: y :: _ =>
    .ok [UInt8.ofNat (v * 4 + w / 16), UInt8.ofNat (w % 16 * 16 + x / 4),
      UInt8.ofNat (x % 4 * 64 + y)]

/-- Reads the last group, of at most four bytes: symbols, then padding from the third place on. -/
def decodeLast (offset : Nat) (group : Bytes) : Except Error Bytes :=
  let data := group.takeWhile (· ≠ pad)
  let padding := group.dropWhile (· ≠ pad)
  match values offset data with
  | .error e => .error e
  | .ok vs =>
    if padding ≠ [] ∧ (data.length < 2 ∨ padding.any (· ≠ pad)) then
      .error (.badSymbol (offset + data.length) pad)
    else lastBytes offset group vs

/-- Reads from the given offset on: full groups while more than four bytes are left, then the
last group. -/
def decodeFrom (offset : Nat) : Bytes → Except Error Bytes
  | a :: b :: c :: d :: e :: rest =>
    match values offset [a, b, c, d] with
    | .error fault => .error fault
    | .ok vs =>
      match lastBytes offset [a, b, c, d] vs, decodeFrom (offset + 4) (e :: rest) with
      | .error fault, _ => .error fault
      | .ok _, .error fault => .error fault
      | .ok group, .ok bytes => .ok (group ++ bytes)
  | group => decodeLast offset group

/-- A stray byte that is neither symbol nor padding after complete groups is reported first. -/
def strayEnd (text : Bytes) : Option Error :=
  if text.length % 4 = 1 then
    match text.getLast? with
    | some b => if b ≠ pad ∧ value b = none then some (.badSymbol (text.length - 1) b) else none
    | none => none
  else none

/-- The bytes that a text, given by its UTF-8 bytes, encodes. -/
def decodeBytes (text : Bytes) : Except Error Bytes :=
  match strayEnd text with
  | some fault => .error fault
  | none => decodeFrom 0 text

def decode (text : String) : Except Error Bytes :=
  decodeBytes (Utf8.ofString text)

def isBlankByte (b : UInt8) : Bool :=
  b = 32 || b = 9 || b = 10 || b = 12 || b = 13

/-- A text without its ASCII blanks. -/
def compact (text : String) : String :=
  String.ofList (text.toList.filter fun c => !Text.isAsciiBlank c)

/-- The bytes that a form value encodes, ASCII blanks in it ignored. A text without them is read as
it is. -/
def decodeForm (text : String) : Except Error Bytes :=
  if (Utf8.ofString text).any isBlankByte then decode (compact text) else decode text

/-- The padding that a text of this many bytes lacks. -/
def missingPadding (length : Nat) : Bytes :=
  List.replicate ((4 - length % 4) % 4) pad

/-- The bytes that a text encodes of which padding may be missing, in part or as a whole. -/
def decodeOpen? (text : String) : Option Bytes :=
  let bytes := Utf8.ofString text
  (decodeBytes (bytes ++ missingPadding bytes.length)).toOption

end SignPost.Base64
