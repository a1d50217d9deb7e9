import SignPost.Text.Decimal
import SignPost.Text.Hex
import SignPost.Text.Pieces

/-!
# Numeric hosts

Why a text is not an absolute address, with the wording of each fault, and the hosts that are
numbers.

A host whose last part is a number is an address of version 4: one to four numbers, decimal, octal
behind `0` or hexadecimal behind `0x`, of which the last fills the bytes that are left. An address
of version 6 stands in brackets.
-/

namespace SignPost.Url

/-! ## Faults -/

inductive Error where
  | relative
  | emptyHost
  | invalidPort
  | invalidName
  /-- The host looks like an address of version 4 and is none. -/
  | invalidIpv4
  /-- The host stands in brackets and is not an address of version 6. -/
  | invalidIpv6
  /-- The host holds a character that no host may hold. -/
  | invalidCharacter
deriving DecidableEq, Repr

def Error.message : Error → String
  | .relative => "relative URL without a base"
  | .emptyHost => "empty host"
  | .invalidPort => "invalid port number"
  | .invalidName => "invalid international domain name"
  | .invalidIpv4 => "invalid IPv4 address"
  | .invalidIpv6 => "invalid IPv6 address"
  | .invalidCharacter => "invalid domain character"

/-- A way to tell whether a text is an absolute address, or why it is none. -/
abbrev Check := String → Except Error Unit

/-! ## Version 4 -/

def digitsIn (base : Nat) (digits : List Char) : Option Nat :=
  digits.foldl
    (fun number c =>
      match number, Hex.digitValue c.toNat with
      | some n, some d => if d < base then some (n * base + d) else none
      | _, _ => none)
    (some 0)

/-- The number of a part of an address; a bare `0x` is zero. -/
def partValue : List Char → Option Nat
  | [] => none
  | '0' :: 'x' :: digits => digitsIn 16 digits
  | '0' :: 'X' :: digits => digitsIn 16 digits
  | '0' :: d :: digits => digitsIn 8 (d :: digits)
  | digits => digitsIn 10 digits

/-- The parts of a name; a dot at the end closes the last part. -/
def parts (name : List Char) : List (List Char) :=
  match (pieces (· = '.') name).reverse with
  | [] :: before => before.reverse
  | all => all.reverse

def endsInNumber (name : List Char) : Bool :=
  match (parts name).getLast? with
  | some part =>
    (!part.isEmpty && part.all fun c => (Decimal.digitValue c).isSome) || (partValue part).isSome
  | none => false

def isIpv4 (name : List Char) : Bool :=
  match (parts name).mapM partValue with
  | some numbers =>
    numbers.length ≤ 4 &&
      match numbers.reverse with
      | last :: before => last < 1 <<< (32 - 8 * before.length) && before.all (· ≤ 255)
      | [] => false
  | none => false

/-! ## Version 6 -/

/-- One number of an address of version 4 inside one of version 6: decimal, at most 255 and
without leading zeros. -/
def isByte (digits : List Char) : Bool :=
  match Decimal.ofDigits digits with
  | some n => n ≤ 255 && digits.length ≤ 3 && (digits.length = 1 || digits.head? ≠ some '0')
  | none => false

def isDotted (text : List Char) : Bool :=
  let numbers := pieces (· = '.') text
  numbers.length = 4 && numbers.all isByte

/-- One group of an address of version 6: one to four digits. -/
def isGroup (group : List Char) : Bool :=
  1 ≤ group.length && group.length ≤ 4 && group.all fun c => (Hex.digitValue c.toNat).isSome

/-- How many groups of sixteen bits a list of groups fills; the last may be dotted. -/
def groupCount : List (List Char) → Option Nat
  | [] => some 0
  | [last] => if isGroup last then some 1 else if isDotted last then some 2 else none
  | group :: rest => if isGroup group then (groupCount rest).map (· + 1) else none

/-- The groups of a text between colons; an empty text has none. -/
def groups (text : List Char) : List (List Char) :=
  if text.isEmpty then [] else pieces (· = ':') text

/-- The text before the first `::` and the text after it. -/
def splitDouble : List Char → Option (List Char × List Char)
  | ':' :: ':' :: rest => some ([], rest)
  | c :: rest => (splitDouble rest).map fun (before, after) => (c :: before, after)
  | [] => none

/-- A text is an address of version 6: eight groups, or fewer around one `::`. -/
def isIpv6 (text : List Char) : Bool :=
  match splitDouble text with
  | none => groupCount (groups text) = some 8
  | some (before, after) =>
    (groups before).all isGroup &&
      match groupCount (groups after) with
      | some n => (groups before).length + n ≤ 7
      | none => false

end SignPost.Url
