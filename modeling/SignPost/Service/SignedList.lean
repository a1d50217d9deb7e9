import SignPost.Field
import SignPost.Text.Pieces
import SignPost.Text.Utf8

/-!
# Lists of signed fields

A service signature covers the fields of a list, in the order of the list: what is signed are the
values one after the other. Names that cannot be covered and fields without a value contribute
nothing. On the wire the names stand between commas, which may be written as `%2C`.
-/

namespace SignPost.Service

def fieldBytes [FieldSource α] (source : α) (name : String) : Bytes :=
  match (SignableField.ofName? name).bind (FieldSource.value? source) with
  | some value => Utf8.ofString value
  | none => []

/-- The bytes that are signed for a list of names. -/
def canonicalBytes [FieldSource α] (names : List String) (source : α) : Bytes :=
  names.flatMap (fieldBytes source)

structure SignedList where
  names : List String
deriving DecidableEq, Repr

namespace SignedList

/-- A text with each `%2` and the given letter read as a comma. -/
def readComma (letter : Char) : List Char → List Char
  | [] => []
  | [a] => [a]
  | [a, b] => [a, b]
  | a :: b :: c :: rest =>
    if a = '%' ∧ b = '2' ∧ c = letter then ',' :: readComma letter rest
    else a :: readComma letter (b :: c :: rest)

/-- The names of a text: what stands between commas, without blanks around it, unless empty. -/
def tokens (text : List Char) : List (List Char) :=
  ((pieces (· = ',') text).map Text.trim).filter fun name => !name.isEmpty

def parse (text : String) : SignedList :=
  ⟨(tokens (readComma 'c' (readComma 'C' text.toList))).map String.ofList⟩

def render (list : SignedList) : String :=
  ",".intercalate list.names

def contains (list : SignedList) (name : String) : Bool :=
  list.names.contains name

def canonical [FieldSource α] (list : SignedList) (source : α) : Bytes :=
  canonicalBytes list.names source

end SignedList

end SignPost.Service
