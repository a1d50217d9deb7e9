import SignPost.Text.Pieces

/-!
# Labels in ASCII form

The encoding of a label as `xn--` and a text of ASCII: after the ASCII characters of the label come
numbers that say where to insert the others, in the order of their codes. Only reading is needed.
-/

namespace SignPost.Url.Punycode

def digitValue (c : Char) : Option Nat :=
  let n := c.toNat
  if 0x61 ≤ n ∧ n ≤ 0x7A then some (n - 0x61)
  else if 0x41 ≤ n ∧ n ≤ 0x5A then some (n - 0x41)
  else if 0x30 ≤ n ∧ n ≤ 0x39 then some (n - 0x30 + 26)
  else none

/-- The digit value below which the `place`-th digit ends a number. -/
def threshold (place bias : Nat) : Nat :=
  if place ≤ bias then 1 else if bias + 26 ≤ place then 26 else place - bias

/-- Takes a number: digits of growing weight up to one below its threshold. -/
def takeNumber (bias : Nat) : (place weight value : Nat) → List Char → Option (Nat × List Char)
  | _, _, _, [] => none
  | place, weight, value, c :: rest =>
    match digitValue c with
    | none => none
    | some d =>
      let t := threshold place bias
      if d < t then some (value + d * weight, rest)
      else takeNumber bias (place + 36) (weight * (36 - t)) (value + d * weight) rest

theorem length_takeNumber {bias place weight value : Nat} {text rest : List Char} {n : Nat}
    (h : takeNumber bias place weight value text = some (n, rest)) : rest.length < text.length := by
  induction text generalizing place weight value with
  | nil => simp [takeNumber] at h
  | cons c text ih =>
    rw [takeNumber] at h
    split at h
    · cases h
    · simp only at h
      split at h
      · cases h; simp
      · have := ih h; simp; omega

/-- Divides a difference until it is small, and counts how often. -/
def shrink (delta steps : Nat) : Nat × Nat :=
  if 455 < delta then shrink (delta / 35) (steps + 36) else (delta, steps)
termination_by delta

def adapt (delta size : Nat) (first : Bool) : Nat :=
  let delta := if first then delta / 700 else delta / 2
  let (delta, steps) := shrink (delta + delta / size) 0
  steps + 36 * delta / (delta + 38)

/-- Inserts characters into a text, as numbers say. -/
def insertAll (code place bias : Nat) (text : List Char) (input : List Char) : Option (List Char) :=
  if input.isEmpty then some text
  else
    match _h : takeNumber bias 36 1 place input with
    | none => none
    | some (total, rest) =>
      let size := text.length + 1
      let code := code + total / size
      let at_ := total % size
      if code.isValidChar then
        insertAll code (at_ + 1) (adapt (total - place) size (place = 0))
          (text.take at_ ++ Char.ofNat code :: text.drop at_) rest
      else none
termination_by input.length
decreasing_by exact length_takeNumber _h

/-- The text before the last hyphen and the text after it. A hyphen with nothing before it is no
separator. -/
def splitLast (text : List Char) : List Char × List Char :=
  match (pieces (· = '-') text).reverse with
  | last :: before =>
    let plain := List.intercalate ['-'] before.reverse
    if plain.isEmpty then ([], text) else (plain, last)
  | [] => ([], text)

/-- The label that a text, the part after `xn--`, stands for. -/
def decode (text : List Char) : Option (List Char) :=
  let (plain, numbers) := splitLast text
  insertAll 128 0 72 plain numbers

end SignPost.Url.Punycode
