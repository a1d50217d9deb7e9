import SignPost.Text.Hex

/-!
# UTF-8 and UTF-16

Characters as one to four bytes, and back. A byte string is read character by character; where it
stops being UTF-8, the fault is the longest start of a character that cannot go on (of at least
one byte), or an end of input inside a character. `decodeLossy` puts U+FFFD in the place of each
fault, `decode` stops at the first.

In units of sixteen bits, a character beyond U+FFFF takes two units from two reserved ranges, and a
lone unit of these ranges is no text.
-/

namespace SignPost.Utf8

def encodeChar (c : Char) : Bytes :=
  let n := c.toNat
  if n < 0x80 then [UInt8.ofNat n]
  else if n < 0x800 then [UInt8.ofNat (0xC0 + n / 64), UInt8.ofNat (0x80 + n % 64)]
  else if n < 0x10000 then
    [UInt8.ofNat (0xE0 + n / 4096), UInt8.ofNat (0x80 + n / 64 % 64), UInt8.ofNat (0x80 + n % 64)]
  else
    [UInt8.ofNat (0xF0 + n / 262144), UInt8.ofNat (0x80 + n / 4096 % 64),
      UInt8.ofNat (0x80 + n / 64 % 64), UInt8.ofNat (0x80 + n % 64)]

def encode (text : List Char) : Bytes :=
  text.flatMap encodeChar

def ofString (s : String) : Bytes :=
  encode s.toList

inductive Head where
  | scalar (c : Char) (width : Nat)
  | invalid (width : Nat)
  /-- The start of a character, cut off by the end of the input. -/
  | truncated
deriving DecidableEq, Repr

/-- What a first byte announces: its payload bits, how many bytes follow, and the least and the
greatest value of the next one. -/
def lead (n : Nat) : Option (Nat × Nat × Nat × Nat) :=
  if n < 0x80 then some (n, 0, 0x80, 0xBF)
  else if n < 0xC2 then none
  else if n < 0xE0 then some (n - 0xC0, 1, 0x80, 0xBF)
  else if n = 0xE0 then some (0, 2, 0xA0, 0xBF)
  else if n = 0xED then some (13, 2, 0x80, 0x9F)
  else if n < 0xF0 then some (n - 0xE0, 2, 0x80, 0xBF)
  else if n = 0xF0 then some (0, 3, 0x90, 0xBF)
  else if n < 0xF4 then some (n - 0xF0, 3, 0x80, 0xBF)
  else if n = 0xF4 then some (4, 3, 0x80, 0x8F)
  else none

/-- Reads the bytes that a character still needs; `width` bytes of it are read. -/
def follow (value width : Nat) : (more low high : Nat) → Bytes → Head
  | 0, _, _, _ => .scalar (Char.ofNat value) width
  | _ + 1, _, _, [] => .truncated
  | more + 1, low, high, b :: rest =>
    if low ≤ b.toNat ∧ b.toNat ≤ high then
      follow (value * 64 + (b.toNat - 0x80)) (width + 1) more 0x80 0xBF rest
    else .invalid width

/-- What the bytes `first :: rest` start with. -/
def head (first : UInt8) (rest : Bytes) : Head :=
  match lead first.toNat with
  | none => .invalid 1
  | some (value, more, low, high) => follow value 1 more low high rest

/-- What is left behind the first byte is shorter than the whole. -/
theorem length_drop_lt (b : UInt8) (rest : Bytes) (n : Nat) :
    (rest.drop n).length < (b :: rest).length := by
  rw [List.length_drop, List.length_cons]
  omega

/-- The text of a byte string, with U+FFFD for each fault. -/
def decodeLossy : Bytes → List Char
  | [] => []
  | b :: rest =>
    match head b rest with
    | .scalar c width => c :: decodeLossy (rest.drop (width - 1))
    | .invalid width => '\uFFFD' :: decodeLossy (rest.drop (width - 1))
    | .truncated => ['\uFFFD']
termination_by bytes => bytes.length
decreasing_by all_goals exact length_drop_lt ..

inductive Error where
  | invalid (width offset : Nat)
  /-- The input ends inside the character at this offset. -/
  | truncated (offset : Nat)
deriving DecidableEq, Repr

def Error.message : Error → String
  | .invalid width offset =>
    "invalid utf-8 sequence of " ++ toString width ++ " bytes from index " ++ toString offset
  | .truncated offset => "incomplete utf-8 byte sequence from index " ++ toString offset

def decodeFrom (offset : Nat) : Bytes → Except Error (List Char)
  | [] => .ok []
  | b :: rest =>
    match head b rest with
    | .scalar c width =>
      match decodeFrom (offset + width) (rest.drop (width - 1)) with
      | .ok text => .ok (c :: text)
      | .error e => .error e
    | .invalid width => .error (.invalid width offset)
    | .truncated => .error (.truncated offset)
termination_by bytes => bytes.length
decreasing_by all_goals exact length_drop_lt ..

/-- The text of a byte string, or its first fault. -/
def decode (bytes : Bytes) : Except Error (List Char) :=
  decodeFrom 0 bytes

def decode? (bytes : Bytes) : Option (List Char) :=
  (decode bytes).toOption

end SignPost.Utf8

/-! ## Units of sixteen bits -/

namespace SignPost.Utf16

def isHigh (n : Nat) : Bool :=
  0xD800 ≤ n && n ≤ 0xDBFF

def isLow (n : Nat) : Bool :=
  0xDC00 ≤ n && n ≤ 0xDFFF

def pair (high low : Nat) : Char :=
  Char.ofNat (0x10000 + (high - 0xD800) * 1024 + (low - 0xDC00))

def decode : List Nat → Option (List Char)
  | [] => some []
  | [n] => if isHigh n || isLow n then none else some [Char.ofNat n]
  | n :: m :: rest =>
    if isLow n then none
    else if isHigh n then
      if isLow m then (decode rest).map (pair n m :: ·) else none
    else (decode (m :: rest)).map (Char.ofNat n :: ·)

end SignPost.Utf16
