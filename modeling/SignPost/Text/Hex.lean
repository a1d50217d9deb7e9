/-!
# Hexadecimal text

Bytes are written as two lower case digits each. Reading accepts digits of either case and nothing
else, and reports the first fault: an odd number of digits before any bad character, then the
first byte that is no digit.
-/

namespace SignPost

abbrev Bytes := List UInt8

namespace Hex

/-- The lower case digit of a number below sixteen. -/
def digit (n : Nat) : Char :=
  if n < 10 then Char.ofNat (48 + n) else Char.ofNat (87 + n)

/-- The upper case digit of a number below sixteen. -/
def upperDigit (n : Nat) : Char :=
  if n < 10 then Char.ofNat (48 + n) else Char.ofNat (55 + n)

/-- The value of a hexadecimal digit of either case, given by its code. -/
def digitValue (n : Nat) : Option Nat :=
  if 48 ≤ n ∧ n ≤ 57 then some (n - 48)
  else if 65 ≤ n ∧ n ≤ 70 then some (n - 55)
  else if 97 ≤ n ∧ n ≤ 102 then some (n - 87)
  else none

def pair (b : UInt8) : List Char :=
  [digit (b.toNat / 16), digit (b.toNat % 16)]

def encode (bytes : Bytes) : String :=
  String.ofList (bytes.flatMap pair)

def encodeUpper (bytes : Bytes) : String :=
  String.ofList (bytes.flatMap fun b => [upperDigit (b.toNat / 16), upperDigit (b.toNat % 16)])

/-- Lower case digit pairs with a separator between neighbours. -/
def encodeSeparated (separator : String) (bytes : Bytes) : String :=
  separator.intercalate (bytes.map fun b => String.ofList (pair b))

inductive Error where
  | oddLength
  | badDigit (byte : UInt8) (offset : Nat)
deriving DecidableEq, Repr

def decodeFrom (offset : Nat) : Bytes → Except Error Bytes
  | [] => .ok []
  | [_] => .error .oddLength
  | high :: low :: rest =>
    match digitValue high.toNat, digitValue low.toNat with
    | none, _ => .error (.badDigit high offset)
    | some _, none => .error (.badDigit low (offset + 1))
    | some h, some l =>
      match decodeFrom (offset + 2) rest with
      | .ok bytes => .ok (UInt8.ofNat (h * 16 + l) :: bytes)
      | .error e => .error e

/-- The bytes that a text of digit pairs stands for. -/
def decode (text : Bytes) : Except Error Bytes :=
  if text.length % 2 = 1 then .error .oddLength else decodeFrom 0 text

end Hex

end SignPost
