import SignPost.Form.Basic
import SignPost.Text.Pieces
import SignPost.Text.Utf8

/-!
# Forms as a request body

The encoding `application/x-www-form-urlencoded`. Letters, digits and `*-._` stand for themselves,
a space is written `+` and any other byte as `%` and two digits. Reading accepts every byte string:
a stray `%` stands for itself, empty fields are dropped, and what is not UTF-8 is replaced.
-/

namespace SignPost.Form

def isPlain (b : UInt8) : Bool :=
  let n := b.toNat
  (48 ≤ n && n ≤ 57) || (65 ≤ n && n ≤ 90) || (97 ≤ n && n ≤ 122) ||
    n = 42 || n = 45 || n = 46 || n = 95

def encodeByte (b : UInt8) : Bytes :=
  if isPlain b then [b]
  else if b = 32 then [43]
  else
    [37, UInt8.ofNat (Hex.upperDigit (b.toNat / 16)).toNat,
      UInt8.ofNat (Hex.upperDigit (b.toNat % 16)).toNat]

def encodePart (text : String) : Bytes :=
  (Utf8.ofString text).flatMap encodeByte

def encodeField (field : String × String) : Bytes :=
  encodePart field.1 ++ 61 :: encodePart field.2

def toBody (form : Form) : Bytes :=
  List.intercalate [38] (form.fields.map encodeField)

def toUrlEncoded (form : Form) : String :=
  String.ofList (form.toBody.map fun b => Char.ofNat b.toNat)

/-- The byte that `%` and two digits stand for. -/
def escaped (high low : UInt8) : Option UInt8 :=
  match Hex.digitValue high.toNat, Hex.digitValue low.toNat with
  | some h, some l => some (UInt8.ofNat (h * 16 + l))
  | _, _ => none

def decodeBytes : Bytes → Bytes
  | [] => []
  | [b] => [if b = 43 then 32 else b]
  | [a, b] => [if a = 43 then 32 else a, if b = 43 then 32 else b]
  | a :: b :: c :: rest =>
    if a = 37 then
      match escaped b c with
      | some byte => byte :: decodeBytes rest
      | none => a :: decodeBytes (b :: c :: rest)
    else (if a = 43 then 32 else a) :: decodeBytes (b :: c :: rest)

def decodePart (part : Bytes) : String :=
  String.ofList (Utf8.decodeLossy (decodeBytes part))

/-- The field that a written field stands for; without `=` the value is empty. -/
def decodeField (field : Bytes) : String × String :=
  (decodePart (field.takeWhile (· ≠ 61)), decodePart ((field.dropWhile (· ≠ 61)).drop 1))

def ofBody (body : Bytes) : Form :=
  ⟨((pieces (· = 38) body).filter (fun field => !field.isEmpty)).map decodeField⟩

/-- Two bodies joined by `&` hold the fields of the first and then those of the second. -/
theorem ofBody_append (a b : Bytes) :
    ofBody (a ++ 38 :: b) = (ofBody a).append (ofBody b) := by
  simp [ofBody, append, pieces_append]

end SignPost.Form
