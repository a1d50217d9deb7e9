import SignPost.Text.Utf8
import SignPost.Url.Domain.Direction
import SignPost.Url.Domain.Joining
import SignPost.Url.Domain.Punycode

/-!
# Domain names

A name is brought to the form in which it is compared: letters are lowered, characters that stand
for others are replaced, some are left out, and the rest is composed. It is refused if it then holds
a character that no name may hold, or a label that is not well formed. Labels of any length, empty
ones too, are accepted.
-/

namespace SignPost.Url.Domain

/-- Characters of ASCII that no name may hold: controls, the space, and delimiters. -/
def isForbidden (c : Char) : Bool :=
  c.toNat ≤ 0x20 || c.toNat = 0x7F || "%#/:<>?@[\\]^|".toList.contains c

/-- What a character of a name stands for; absent for one beyond ASCII that no name may hold. -/
def mapChar (c : Char) : Option (List Char) :=
  if c.toNat < 128 then some [c.toLower]
  else if ignored.contains c then some []
  else if disallowed.contains c then none
  else some ((target? c).getD [c])

/-- A text with each character replaced by what it stands for, composed. -/
def mapText (text : List Char) : Option (List Char) :=
  (text.mapM mapChar).map fun chars => composed chars.flatten

/-- A label beyond ASCII is well formed: it begins with no mark and its joiners are in place. -/
def validLabel (label : List Char) : Bool :=
  match label with
  | [] => true
  | c :: _ => !marks.contains c && validJoiners label

/-- A character stands for itself. -/
def isFinal (c : Char) : Bool :=
  c.toNat < 128 || !(ignored.contains c || disallowed.contains c || (target? c).isSome)

/-- A text is as mapping would leave it. -/
def isMapped (text : List Char) : Bool :=
  text.all isFinal && composed text = text

def encodedStart : List Char := "xn--".toList

/-- The label that an encoded label stands for: not all ASCII, and as mapping would leave it. -/
def decodeLabel (text : List Char) : Option (List Char) :=
  if 2000 < text.length then none
  else
    match Punycode.decode text with
    | some label =>
      if !isAscii label && isMapped label && validLabel label then some label else none
    | none => none

def finishLabel (label : List Char) : Option (List Char) :=
  if encodedStart.isPrefixOf label then
    if isAscii label then decodeLabel (label.drop encodedStart.length) else none
  else if isAscii label then some label
  else if label.length ≤ 1000 && validLabel label then some label
  else none

def consistentDirections (labels : List (List Char)) : Bool :=
  !(labels.any fun label => label.any isRightToLeft) ||
    labels.all fun label => validDirections (label.map direction)

def normalize (bytes : Bytes) : Option (List Char) := do
  let text ← Utf8.decode? bytes
  let name ← mapText text
  if name.any isForbidden then none
  else
    let labels ← (pieces (· = '.') name).mapM finishLabel
    if consistentDirections labels then some (List.intercalate ['.'] labels) else none

end SignPost.Url.Domain
