import SignPost.Text.Pieces

/-!
# Decimal numbers

Natural numbers of bounded size in decimal digits. An optional plus sign and leading zeros are
read; nothing else may stand beside the digits.
-/

namespace SignPost.Decimal

def digitValue (c : Char) : Option Nat :=
  if 48 ≤ c.toNat ∧ c.toNat ≤ 57 then some (c.toNat - 48) else none

/-- The number that decimal digits spell after `high`. -/
def digitsFrom (high : Nat) : List Char → Option Nat
  | [] => some high
  | c :: rest =>
    match digitValue c with
    | some d => digitsFrom (high * 10 + d) rest
    | none => none

/-- The number that at least one decimal digit spells. -/
def ofDigits (digits : List Char) : Option Nat :=
  if digits.isEmpty then none else digitsFrom 0 digits

def unsigned : List Char → List Char
  | '+' :: digits => digits
  | digits => digits

/-- The number that a text spells, if it is at most `limit`. -/
def parse (limit : Nat) (text : List Char) : Option Nat :=
  match ofDigits (unsigned text) with
  | some n => if n ≤ limit then some n else none
  | none => none

def maxCount : Nat := UInt64.size - 1

def parseCount (text : String) : Option Nat :=
  parse maxCount (Text.trim text.toList)

def render (n : Nat) : String :=
  String.ofList (Nat.toDigits 10 n)

/-- A number of less than `width` digits with leading zeros. -/
def padded (width n : Nat) : String :=
  let digits := Nat.toDigits 10 n
  String.ofList (List.replicate (width - digits.length) '0' ++ digits)

end SignPost.Decimal
