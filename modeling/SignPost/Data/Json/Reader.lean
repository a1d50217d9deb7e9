import SignPost.Data.Value
import SignPost.Text.Decimal
import SignPost.Text.Hex
import SignPost.Text.Utf8

/-!
# Reading JSON

A text is one value with blanks around it. Lists and tables are nested less than 128 deep. A whole
number of 64 bits with sign stays whole; any other number is read as a significand of 64 bits,
further digits ignored, and a power of ten, which are multiplied as floating point numbers.
-/

namespace SignPost.Data.Json

open Number (Binary64)

def isBlank (c : Char) : Bool :=
  c = ' ' || c = '\t' || c = '\n' || c = '\r'

def skip (text : List Char) : List Char :=
  text.dropWhile isBlank

/-! ## Numbers -/

def maxSignificand : Nat := UInt64.size - 1

/-- A number in parts: a significand, how many digits were dropped from it or stand behind its
point, and the rest of the text. -/
structure Parts where
  significand : Nat
  exponent : Int
  rest : List Char
deriving Repr

/-- Reads digits while the significand stays within its limit; gives it and the digits left. -/
def takeSignificand (significand : Nat) : List Char → Nat × List Char
  | [] => (significand, [])
  | c :: rest =>
    match Decimal.digitValue c with
    | some d =>
      if significand * 10 + d ≤ maxSignificand then takeSignificand (significand * 10 + d) rest
      else (significand, c :: rest)
    | none => (significand, c :: rest)

def isDigit (c : Char) : Bool :=
  (Decimal.digitValue c).isSome

/-- Reads the digits behind a point; there is at least one. -/
def takeFraction (significand : Nat) (exponent : Int) (text : List Char) : Option Parts :=
  let digits := text.takeWhile isDigit
  if digits.isEmpty then none
  else
    let (significand, left) := takeSignificand significand digits
    let used := digits.length - left.length
    some ⟨significand, exponent - Int.ofNat used, text.dropWhile isDigit⟩

def maxExponent : Nat := 1 <<< 31 - 1

/-- Reads an exponent behind its letter: its value, and the rest. -/
def takeExponent (text : List Char) : Option (Int × List Char) :=
  let (negative, text) :=
    match text with
    | '+' :: rest => (false, rest)
    | '-' :: rest => (true, rest)
    | _ => (false, text)
  match Decimal.ofDigits (text.takeWhile isDigit) with
  | some n => some (if negative then -Int.ofNat n else Int.ofNat n, text.dropWhile isDigit)
  | none => none

/-- Divides by powers of ten until the exponent is within the format; `none` for a number that is
too large. -/
def scale (x : Binary64) (exponent : Int) : (fuel : Nat) → Option Binary64
  | 0 => some x
  | fuel + 1 =>
    if 0 ≤ exponent then
      if 308 < exponent then if x.isZero then some x else none
      else
        let y := x.mul (Binary64.pow10 exponent.toNat)
        if y.isInfinite then none else some y
    else if -308 ≤ exponent then some (x.div (Binary64.pow10 (-exponent).toNat))
    else if x.isZero then some x
    else scale (x.div (Binary64.pow10 308)) (exponent + 308) fuel

def assemble (negative : Bool) (significand : Nat) (exponent : Int) : Option Binary64 :=
  (scale (Binary64.ofNat significand) exponent 8).map fun x => if negative then x.neg else x

/-- The number of parts and a further exponent. An exponent out of bounds gives zero or is too
large. -/
def withExponent (negative : Bool) (parts : Parts) : Option (Binary64 × List Char) :=
  match parts.rest with
  | c :: rest =>
    if c = 'e' || c = 'E' then
      match takeExponent rest with
      | none => none
      | some (e, rest) =>
        if Int.ofNat maxExponent < Int.ofNat e.natAbs then
          if 0 < e ∧ parts.significand ≠ 0 then none else some (Binary64.zero negative, rest)
        else (assemble negative parts.significand (parts.exponent + e)).map (·, rest)
    else (assemble negative parts.significand parts.exponent).map (·, c :: rest)
  | [] => (assemble negative parts.significand parts.exponent).map (·, [])

/-- The number of a significand that is followed by a point or an exponent, or is too long. -/
def takeFloat (negative : Bool) (parts : Parts) : Option (Binary64 × List Char) :=
  match parts.rest with
  | '.' :: rest => (takeFraction parts.significand parts.exponent rest).bind (withExponent negative)
  | _ => withExponent negative parts

/-- A whole number: an integer of 64 bits with sign, or else a floating point number. -/
def whole (negative : Bool) (n : Nat) : Value :=
  if negative then
    if 1 ≤ n ∧ n ≤ 1 <<< 63 then .int (-Int.ofNat n) else .float (Binary64.ofNat n).neg
  else if n < 1 <<< 63 then .int (Int.ofNat n)
  else .float (Binary64.ofNat n)

def takeUnsigned (negative : Bool) (text : List Char) : Option (Value × List Char) :=
  let digits := text.takeWhile isDigit
  let after := text.dropWhile isDigit
  if digits.isEmpty || (1 < digits.length && digits.head? = some '0') then none
  else
    let (significand, left) := takeSignificand 0 digits
    let isWhole :=
      match after with
      | c :: _ => c ≠ '.' && c ≠ 'e' && c ≠ 'E'
      | [] => true
    if isWhole && left.isEmpty then some (whole negative significand, after)
    else
      (takeFloat negative ⟨significand, Int.ofNat left.length, after⟩).map fun (x, rest) =>
        (.float x, rest)

def takeNumber : List Char → Option (Value × List Char)
  | '-' :: rest => takeUnsigned true rest
  | text => takeUnsigned false text

/-! ## Texts -/

def takeUnit : List Char → Option (Nat × List Char)
  | a :: b :: c :: d :: rest =>
    match [a, b, c, d].mapM fun x => Hex.digitValue x.toNat with
    | some digits => some (digits.foldl (fun n d => n * 16 + d) 0, rest)
    | none => none
  | _ => none

/-- Reads a character by its number, behind `\u`; a character of two units takes two of them. -/
def takeSpelled (text : List Char) : Option (Char × List Char) :=
  match takeUnit text with
  | none => none
  | some (n, rest) =>
    if Utf16.isHigh n then
      match rest with
      | '\\' :: 'u' :: more =>
        match takeUnit more with
        | some (m, rest) => if Utf16.isLow m then some (Utf16.pair n m, rest) else none
        | none => none
      | _ => none
    else if Utf16.isLow n then none
    else some (Char.ofNat n, rest)

def escaped (c : Char) : Option Char :=
  if c = '"' || c = '\\' || c = '/' then some c
  else if c = 'b' then some '\x08'
  else if c = 'f' then some '\x0c'
  else if c = 'n' then some '\n'
  else if c = 'r' then some '\r'
  else if c = 't' then some '\t'
  else none

def takeText : (fuel : Nat) → List Char → Option (List Char × List Char)
  | 0, _ => none
  | _ + 1, [] => none
  | fuel + 1, c :: rest =>
    let prepend (c : Char) (rest : List Char) : Option (List Char × List Char) :=
      (takeText fuel rest).map fun (text, rest) => (c :: text, rest)
    if c = '"' then some ([], rest)
    else if c.toNat < 0x20 then none
    else if c = '\\' then
      match rest with
      | 'u' :: rest =>
        match takeSpelled rest with
        | some (c, rest) => prepend c rest
        | none => none
      | e :: rest =>
        match escaped e with
        | some c => prepend c rest
        | none => none
      | [] => none
    else prepend c rest

def takeString (text : List Char) : Option (String × List Char) :=
  (takeText (text.length + 1) text).map fun (s, rest) => (String.ofList s, rest)

/-! ## Values -/

def maxDepth : Nat := 127

def takeWord (word : String) (value : Value) (text : List Char) : Option (Value × List Char) :=
  if word.toList.isPrefixOf text then some (value, text.drop word.length) else none

mutual

/-- Reads a value, nested at most `depth` deep. -/
def takeValue : (fuel depth : Nat) → List Char → Option (Value × List Char)
  | 0, _, _ => none
  | fuel + 1, depth, text =>
    match skip text with
    | 'n' :: rest => takeWord "null" .null ('n' :: rest)
    | 't' :: rest => takeWord "true" (.bool true) ('t' :: rest)
    | 'f' :: rest => takeWord "false" (.bool false) ('f' :: rest)
    | '"' :: rest => (takeString rest).map fun (s, rest) => (.text s, rest)
    | '[' :: rest =>
      match depth with
      | 0 => none
      | depth + 1 =>
        match skip rest with
        | ']' :: rest => some (.list [], rest)
        | rest => (takeItems fuel depth rest).map fun (items, rest) => (.list items, rest)
    | '\x7b' :: rest =>
      match depth with
      | 0 => none
      | depth + 1 =>
        match skip rest with
        | '\x7d' :: rest => some (.table [], rest)
        | rest =>
          (takeMembers fuel depth [] rest).map fun (entries, rest) => (.table entries, rest)
    | rest => takeNumber rest

def takeItems : (fuel depth : Nat) → List Char → Option (List Value × List Char)
  | 0, _, _ => none
  | fuel + 1, depth, text =>
    match takeValue fuel depth text with
    | none => none
    | some (v, rest) =>
      match skip rest with
      | ',' :: rest => (takeItems fuel depth rest).map fun (vs, rest) => (v :: vs, rest)
      | ']' :: rest => some ([v], rest)
      | _ => none

/-- Reads the members of a table up to its end, after those found so far. -/
def takeMembers : (fuel depth : Nat) → Entries → List Char → Option (Entries × List Char)
  | 0, _, _, _ => none
  | fuel + 1, depth, found, text =>
    match skip text with
    | '"' :: rest =>
      match takeString rest with
      | none => none
      | some (key, rest) =>
        match skip rest with
        | ':' :: rest =>
          match takeValue fuel depth rest with
          | none => none
          | some (v, rest) =>
            let found := Entries.set key v found
            match skip rest with
            | ',' :: rest => takeMembers fuel depth found rest
            | '\x7d' :: rest => some (found, rest)
            | _ => none
        | _ => none
    | _ => none

end

def parse (text : List Char) : Option Value :=
  match takeValue (text.length + 1) maxDepth text with
  | some (v, rest) => if (skip rest).isEmpty then some v else none
  | none => none

end SignPost.Data.Json
