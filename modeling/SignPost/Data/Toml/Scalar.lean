import SignPost.Data.Toml.Text
import SignPost.Data.Value
import SignPost.Number.Binary64
import SignPost.Text.Decimal
import SignPost.Time.Calendar

/-!
# Numbers and moments in TOML

Digits may have single underscores between them. An integer has 64 bits with sign and may be
written without one to the bases 16, 8 and 2. A number with a fraction or an exponent is rounded to
the nearest binary one and may be too large only below zero. Days and times become texts.
-/

namespace SignPost.Data.Toml

open Number (Binary64)

/-! ## Numbers -/

def isDigit (c : Char) : Bool :=
  (Decimal.digitValue c).isSome

def isDigitOf (base : Nat) (c : Char) : Bool :=
  match Hex.digitValue c.toNat with
  | some d => d < base
  | none => false

/-- Takes further digits, each with an optional underscore before it. -/
def takeMore (isDigit : Char → Bool) : List Char → List Char × List Char
  | '_' :: c :: rest =>
    if isDigit c then
      let (digits, rest) := takeMore isDigit rest
      (c :: digits, rest)
    else ([], '_' :: c :: rest)
  | c :: rest =>
    if isDigit c then
      let (digits, rest) := takeMore isDigit rest
      (c :: digits, rest)
    else ([], c :: rest)
  | [] => ([], [])

def takeDigits (isDigit : Char → Bool) : List Char → Option (List Char × List Char)
  | c :: rest =>
    if isDigit c then
      let (digits, rest) := takeMore isDigit rest
      some (c :: digits, rest)
    else none
  | [] => none

/-- Takes the digits of a whole number, which start with a zero only if that is all. -/
def takeWhole : List Char → Option (List Char × List Char)
  | '0' :: rest => some (['0'], rest)
  | text => takeDigits isDigit text

def valueOf (base : Nat) (digits : List Char) : Nat :=
  digits.foldl (fun n c => n * base + (Hex.digitValue c.toNat).getD 0) 0

def integer (negative : Bool) (n : Nat) : Option Value :=
  if negative then if n ≤ 1 <<< 63 then some (.int (Int.negOfNat n)) else none
  else if n < 1 <<< 63 then some (.int (Int.ofNat n))
  else none

/-- Takes an optional sign: whether it is a minus, and the rest. -/
def takeSign : List Char → Bool × List Char
  | '-' :: rest => (true, rest)
  | '+' :: rest => (false, rest)
  | text => (false, text)

def takeExponent : List Char → Option (Int × List Char)
  | c :: rest =>
    if c = 'e' || c = 'E' then
      let (negative, rest) := takeSign rest
      (takeDigits isDigit rest).map fun (digits, rest) =>
        let n := valueOf 10 digits
        (if negative then Int.negOfNat n else Int.ofNat n, rest)
    else some (0, c :: rest)
  | [] => some (0, [])

/-- A number with a fraction or an exponent, unless it is too large. -/
def float (negative : Bool) (digits : Nat) (exponent : Int) : Option Value :=
  let x := Binary64.ofDecimal negative digits exponent
  if x = .infinite false then none else some (.float x)

def takeDecimal (negative : Bool) (text : List Char) : Option (Value × List Char) := do
  let (whole, text) ← takeWhole text
  match text with
  | '.' :: text =>
    let (fraction, text) ← takeDigits isDigit text
    let (exponent, text) ← takeExponent text
    let x ← float negative (valueOf 10 (whole ++ fraction)) (exponent - Int.ofNat fraction.length)
    some (x, text)
  | c :: _ =>
    if c = 'e' || c = 'E' then
      let (exponent, text) ← takeExponent text
      let x ← float negative (valueOf 10 whole) exponent
      some (x, text)
    else (integer negative (valueOf 10 whole)).map (·, text)
  | [] => (integer negative (valueOf 10 whole)).map (·, [])

def takeBased (base : Nat) (text : List Char) : Option (Value × List Char) := do
  let (digits, text) ← takeDigits (isDigitOf base) text
  let n ← integer false (valueOf base digits)
  some (n, text)

def takeNumber : List Char → Option (Value × List Char)
  | '0' :: 'x' :: rest => takeBased 16 rest
  | '0' :: 'o' :: rest => takeBased 8 rest
  | '0' :: 'b' :: rest => takeBased 2 rest
  | text =>
    let (negative, text) := takeSign text
    match text with
    | 'i' :: 'n' :: 'f' :: rest => some (.float (.infinite negative), rest)
    | 'n' :: 'a' :: 'n' :: rest => some (.float .nan, rest)
    | text => takeDecimal negative text

/-! ## Days and times -/

/-- Takes a number of exactly `width` digits between two bounds. -/
def takeBetween (width low high : Nat) (text : List Char) : Option (Nat × List Char) :=
  let digits := text.take width
  match Decimal.ofDigits digits with
  | some n =>
    if digits.length = width ∧ low ≤ n ∧ n ≤ high then some (n, text.drop width) else none
  | none => none

def takeChar (expected : Char) : List Char → Option (List Char)
  | c :: rest => if c = expected then some rest else none
  | [] => none

def takeDay (text : List Char) : Option (String × List Char) := do
  let (year, text) ← takeBetween 4 0 9999 text
  let text ← takeChar '-' text
  let (month, text) ← takeBetween 2 1 12 text
  let text ← takeChar '-' text
  let (day, text) ← takeBetween 2 1 (Time.daysInMonth (Int.ofNat year) month) text
  some (Decimal.padded 4 year ++ "-" ++ Decimal.padded 2 month ++ "-" ++ Decimal.padded 2 day, text)

/-- The digits of a fraction of a second as they are kept: nine at most, and no zero last. -/
def keptFraction (digits : List Char) : String :=
  match ((digits.take 9).reverse.dropWhile (· = '0')).reverse with
  | [] => ""
  | kept => "." ++ String.ofList kept

def takeTime (text : List Char) : Option (String × List Char) := do
  let (hour, text) ← takeBetween 2 0 23 text
  let text ← takeChar ':' text
  let (minute, text) ← takeBetween 2 0 59 text
  let text ← takeChar ':' text
  let (second, text) ← takeBetween 2 0 60 text
  let time := Decimal.padded 2 hour ++ ":" ++ Decimal.padded 2 minute ++ ":" ++
    Decimal.padded 2 second
  match text with
  | '.' :: rest =>
    let digits := rest.takeWhile isDigit
    if digits.isEmpty then none else some (time ++ keptFraction digits, rest.dropWhile isDigit)
  | _ => some (time, text)

def takeZone : List Char → Option (String × List Char)
  | c :: rest =>
    if c = 'Z' || c = 'z' then some ("Z", rest)
    else if c = '+' || c = '-' then do
      let (hour, rest) ← takeBetween 2 0 23 rest
      let rest ← takeChar ':' rest
      let (minute, rest) ← takeBetween 2 0 59 rest
      let sign := if c = '-' ∧ 0 < hour + minute then "-" else "+"
      some (sign ++ Decimal.padded 2 hour ++ ":" ++ Decimal.padded 2 minute, rest)
    else none
  | [] => none

/-- Takes a time behind a day, with an optional zone. -/
def takeTimeOfDay : List Char → Option (String × List Char)
  | c :: rest =>
    if c = 'T' || c = 't' || c = ' ' then
      (takeTime rest).map fun (time, rest) =>
        match takeZone rest with
        | some (zone, rest) => ("T" ++ time ++ zone, rest)
        | none => ("T" ++ time, rest)
    else none
  | [] => none

def takeMoment (text : List Char) : Option (String × List Char) :=
  match takeDay text with
  | some (day, rest) =>
    match takeTimeOfDay rest with
    | some (time, rest) => some (day ++ time, rest)
    | none => some (day, rest)
  | none => takeTime text

def takeNumeral (text : List Char) : Option (Value × List Char) :=
  match takeMoment text with
  | some (moment, rest) => some (.text moment, rest)
  | none => takeNumber text

end SignPost.Data.Toml
