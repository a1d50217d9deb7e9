import SignPost.Data.Value
import SignPost.Text.Decimal

/-!
# Paths into a document

A key at the top of a document may lead deeper: `client.language` is the value `language` of the
table `client`, and `names[2]` an item of a list, counted from the end for a negative number. Keys
are compared in lower case once they are stored.
-/

namespace SignPost.Data

inductive Path where
  | key (name : String)
  | child (parent : Path) (name : String)
  | item (parent : Path) (index : Int)
deriving DecidableEq, Repr

namespace Path

def isNameChar (c : Char) : Bool :=
  c.isAlphanum || c = ' ' || c = '_' || c = '-'

def takeName (text : List Char) : Option (String × List Char) :=
  let name := text.takeWhile isNameChar
  if name.isEmpty then none else some (String.ofList name, text.dropWhile isNameChar)

def isSpace (c : Char) : Bool :=
  c = ' ' || c = '\t'

/-- Takes the number of an item and the bracket behind it. -/
def takeIndex (text : List Char) : Option (Int × List Char) := do
  let text := text.dropWhile isSpace
  let (negative, text) :=
    match text with
    | '-' :: rest => (true, rest)
    | _ => (false, text)
  let digits := text.takeWhile fun c => (Decimal.digitValue c).isSome
  let n ← Decimal.ofDigits digits
  let limit := if negative then 1 <<< 63 else 1 <<< 63 - 1
  match (text.drop digits.length).dropWhile isSpace with
  | ']' :: rest =>
    if n ≤ limit then some (if negative then Int.negOfNat n else Int.ofNat n, rest) else none
  | _ => none

/-- Takes the steps that follow a path up to the end of the text. -/
def takeSteps : (fuel : Nat) → Path → List Char → Option Path
  | 0, _, _ => none
  | _ + 1, path, [] => some path
  | fuel + 1, path, '.' :: rest =>
    match takeName rest with
    | some (name, rest) => takeSteps fuel (.child path name) rest
    | none => none
  | fuel + 1, path, '[' :: rest =>
    match takeIndex rest with
    | some (index, rest) => takeSteps fuel (.item path index) rest
    | none => none
  | _ + 1, _, _ => none

/-- The path that a key spells; a key that spells none is a name as a whole. -/
def ofKey (key : String) : Path :=
  match takeName key.toList with
  | none => .key key
  | some (name, rest) => (takeSteps (rest.length + 1) (.key name) rest).getD (.key key)

end Path

end SignPost.Data
