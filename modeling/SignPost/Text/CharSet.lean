import SignPost.Text.Hex

/-!
# Sets of characters

A Unicode property as a list of code ranges, written in hexadecimal as the data files of the
standard write them: `41-5a 61-7a aa`.
-/

namespace SignPost.Text

structure CharSet where
  ranges : List (Nat × Nat)
deriving Repr

/-- The number that hexadecimal digits spell after `high`. -/
def hexNumberFrom (high : Nat) : List Char → Nat
  | [] => high
  | c :: rest => hexNumberFrom (high * 16 + (Hex.digitValue c.toNat).getD 0) rest

def hexNumber (digits : List Char) : Nat :=
  hexNumberFrom 0 digits

/-- A range written as `lo-hi`, or as `n` for one code. -/
def CharSet.range (text : List Char) : Nat × Nat :=
  let low := text.takeWhile (· ≠ '-')
  let high := (text.dropWhile (· ≠ '-')).drop 1
  (hexNumber low, hexNumber (if high.isEmpty then low else high))

/-- The words of a text, separated by single spaces. -/
def words (text : List Char) : List (List Char) :=
  text.splitOn ' '

def CharSet.ofLines (lines : List String) : CharSet :=
  ⟨lines.flatMap fun line => (words line.toList).map CharSet.range⟩

/-- A character whose code lies in one of the ranges. -/
def CharSet.contains (s : CharSet) (c : Char) : Bool :=
  s.ranges.any fun r => r.1 ≤ c.toNat && c.toNat ≤ r.2

end SignPost.Text
