import SignPost.Text.Decimal
import SignPost.Time.Calendar

/-!
# Dates and times as text

Writing is exact: `2011-03-01T10:15:00Z`, with three, six or nine digits of a fraction as many as
are needed, and with a sign before a year that has not four digits. Reading is generous: blanks
may stand around the separators, numbers may be shorter, and the offset may be any below a day;
the result is in universal time.
-/

namespace SignPost.Time

open Text (isBlank)

def isDigit (c : Char) : Bool :=
  48 ≤ c.toNat && c.toNat ≤ 57

def skipBlank (text : List Char) : List Char :=
  text.dropWhile isBlank

/-- Takes a number of at least one digit from the front. -/
def takeAllDigits (text : List Char) : Option (Nat × List Char) :=
  match Decimal.ofDigits (text.takeWhile isDigit) with
  | some n => some (n, text.dropWhile isDigit)
  | none => none

/-- Takes a number of one to `width` digits from the front. -/
def takeDigits (width : Nat) (text : List Char) : Option (Nat × List Char) :=
  let digits := (text.take width).takeWhile isDigit
  match Decimal.ofDigits digits with
  | some n => some (n, text.drop digits.length)
  | none => none

/-- Takes a number of at most two digits, blanks before it skipped. -/
def takePart (text : List Char) : Option (Nat × List Char) :=
  takeDigits 2 (skipBlank text)

def takeMark (mark : Char) (text : List Char) : Option (List Char) :=
  match skipBlank text with
  | c :: rest => if c = mark then some rest else none
  | [] => none

/-- Takes a year: four digits at most, or any number of them behind a sign. -/
def takeYear (text : List Char) : Option (Int × List Char) :=
  match skipBlank text with
  | '-' :: rest => (takeAllDigits rest).map fun (n, rest) => (-Int.ofNat n, rest)
  | '+' :: rest => (takeAllDigits rest).map fun (n, rest) => (Int.ofNat n, rest)
  | rest => (takeDigits 4 rest).map fun (n, rest) => (Int.ofNat n, rest)

def yearInRange (year : Int) : Bool :=
  -262143 ≤ year && year ≤ 262142

def takeDate (text : List Char) : Option (Date × List Char) := do
  let (year, text) ← takeYear text
  let text ← takeMark '-' text
  let (month, text) ← takePart text
  let text ← takeMark '-' text
  let (day, text) ← takePart text
  let date : Date := ⟨year, month, day⟩
  if date.valid && yearInRange year then some (date, text) else none

/-- The nanoseconds of a fraction, of which nine digits count. -/
def nanoseconds (digits : List Char) : Nat :=
  (Decimal.ofDigits (digits.take 9)).getD 0 * Nat.pow 10 (9 - digits.length)

def takeFraction : List Char → Option (Nat × List Char)
  | '.' :: rest =>
    let digits := rest.takeWhile isDigit
    if digits.isEmpty then none else some (nanoseconds digits, rest.dropWhile isDigit)
  | rest => some (0, rest)

/-- Takes two digits below `limit`. -/
def takePair (limit : Nat) : List Char → Option (Nat × List Char)
  | a :: b :: rest =>
    match Decimal.digitValue a, Decimal.digitValue b with
    | some m, some n => if m * 10 + n < limit then some (m * 10 + n, rest) else none
    | _, _ => none
  | _ => none

/-- Takes hours and minutes of an offset, colons and blanks between them skipped. -/
def takeHoursMinutes (text : List Char) : Option (Nat × List Char) := do
  let (hours, text) ← takePair 24 text
  let (minutes, text) ← takePair 60 (text.dropWhile fun c => c = ':' || isBlank c)
  some (hours * 60 + minutes, text)

/-- Takes the offset from universal time, in minutes. -/
def takeOffset : List Char → Option (Int × List Char)
  | 'Z' :: rest => some (0, rest)
  | 'z' :: rest => some (0, rest)
  | '+' :: rest => (takeHoursMinutes rest).map fun (n, rest) => (Int.ofNat n, rest)
  | '-' :: rest => (takeHoursMinutes rest).map fun (n, rest) => (-Int.ofNat n, rest)
  | '\u2212' :: rest => (takeHoursMinutes rest).map fun (n, rest) => (-Int.ofNat n, rest)
  | a :: b :: c :: rest =>
    if [a, b, c].map Char.toLower = ['u', 't', 'c'] then some (0, rest) else none
  | _ => none

def takeBreak : List Char → Option (List Char)
  | c :: rest => if c = 'T' || c = 't' || c = ' ' then some rest else none
  | [] => none

/-- The moment that a text names, in universal time. -/
def Moment.parse (text : String) : Option Moment := do
  let (date, text) ← takeDate text.toList
  let text ← takeBreak text
  let (hour, text) ← takePart text
  let text ← takeMark ':' text
  let (minute, text) ← takePart text
  let text ← takeMark ':' text
  let (second, text) ← takePart text
  let (nanosecond, text) ← takeFraction text
  let (offset, text) ← takeOffset (skipBlank text)
  let moment := Moment.minus ⟨date, hour, minute, second, nanosecond⟩ offset
  if (skipBlank text).isEmpty && hour ≤ 23 && minute ≤ 59 && second ≤ 60 &&
      yearInRange moment.date.year then
    some moment
  else none

/-! ## Writing -/

/-- A year, with a sign unless it lies between 0 and 9999. -/
def yearText (year : Int) : String :=
  if 0 ≤ year ∧ year ≤ 9999 then Decimal.padded 4 year.toNat
  else (if year < 0 then "-" else "+") ++ Decimal.padded 4 year.natAbs

/-- The fraction of a second, empty for a whole one. -/
def fractionText (nanosecond : Nat) : String :=
  if nanosecond = 0 then ""
  else if nanosecond % 1000000 = 0 then "." ++ Decimal.padded 3 (nanosecond / 1000000)
  else if nanosecond % 1000 = 0 then "." ++ Decimal.padded 6 (nanosecond / 1000)
  else "." ++ Decimal.padded 9 nanosecond

/-- A moment as text, with a given spelling of universal time. -/
def Moment.render (m : Moment) (zone : String) : String :=
  yearText m.date.year ++ "-" ++ Decimal.padded 2 m.date.month ++ "-" ++
    Decimal.padded 2 m.date.day ++ "T" ++ Decimal.padded 2 m.hour ++ ":" ++
    Decimal.padded 2 m.minute ++ ":" ++ Decimal.padded 2 m.second ++
    fractionText m.nanosecond ++ zone

def Moment.stored (m : Moment) : String :=
  m.render "Z"

def Moment.shown (m : Moment) : String :=
  m.render "+00:00"

end SignPost.Time
