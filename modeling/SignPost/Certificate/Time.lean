import SignPost.Text.Decimal
import SignPost.Time.Calendar
import SignPost.Der.Element

/-!
# Times in certificates

Two forms of a time: with a year of two digits, which lies between 1950 and 2049, and with a year
of four. Seconds may be missing. The short form may state an offset, the long form a fraction of
at most three digits and no offset.
-/

namespace SignPost.Certificate

open Time (Date Moment)

/-- Takes the number of two digits from the front. -/
def twoDigits : Bytes → Option (Nat × Bytes)
  | a :: b :: rest =>
    match Decimal.digitValue (Char.ofNat a.toNat), Decimal.digitValue (Char.ofNat b.toNat) with
    | some m, some n => some (m * 10 + n, rest)
    | _, _ => none
  | _ => none

/-- Takes the seconds, zero where no digits stand; two other bytes in their place are dropped. -/
def optionalSeconds (text : Bytes) : Nat × Bytes :=
  match twoDigits text with
  | some (seconds, rest) => (seconds, rest)
  | none => (0, if text.length < 2 then text else text.drop 2)

/-- The offset in minutes that ends a time of the short form. -/
def shortOffset : Bytes → Option Int
  | [90] => some 0
  | mark :: rest =>
    match twoDigits rest with
    | some (hours, rest) =>
      match twoDigits rest with
      | some (minutes, []) =>
        if 25 < hours ∨ 59 < minutes then none
        else if mark = 43 then some (Int.ofNat (hours * 60 + minutes))
        else if mark = 45 then
          -- the minutes take the sign of the hours
          some (if hours = 0 then Int.ofNat minutes else -Int.ofNat (hours * 60 + minutes))
        else none
      | _ => none
    | none => none
  | [] => none

/-- What ends a time of the long form: an optional fraction of at most three digits, then `Z`. -/
def longEnd : Bytes → Bool
  | [90] => true
  | 46 :: rest =>
    let digits := rest.takeWhile fun b => 48 ≤ b.toNat && b.toNat ≤ 57
    digits.length ≤ 3 && rest.drop digits.length = [90]
  | _ => false

/-- The Unix time of a day and a time of day, if both exist. -/
def unixTime (year month day hour minute second : Nat) : Option Int :=
  let date : Date := ⟨Int.ofNat year, month, day⟩
  if date.valid && hour ≤ 23 && minute ≤ 59 && second ≤ 59 then
    some (Moment.unixSeconds ⟨date, hour, minute, second, 0⟩)
  else none

def shortTime (text : Bytes) : Option Int := do
  let (year, text) ← twoDigits text
  let (month, text) ← twoDigits text
  let (day, text) ← twoDigits text
  let (hour, text) ← twoDigits text
  let (minute, text) ← twoDigits text
  if text.isEmpty then none
  let (second, text) := optionalSeconds text
  let offset ← shortOffset text
  let year := if 50 ≤ year then 1900 + year else 2000 + year
  let seconds ← unixTime year month day hour minute second
  some (seconds - offset * 60)

def longTime (text : Bytes) : Option Int := do
  let (century, text) ← twoDigits text
  let (year, text) ← twoDigits text
  let (month, text) ← twoDigits text
  let (day, text) ← twoDigits text
  let (hour, text) ← twoDigits text
  let (minute, text) ← twoDigits text
  let (second, text) := (twoDigits text).getD (0, text)
  if longEnd text then unixTime (century * 100 + year) month day hour minute second else none

def readTime (input : Bytes) : Option (Int × Bytes) := do
  let (e, rest) ← Der.Element.read input
  if e.tag.constructed then none
  if e.tag.number = Der.Tag.utcTime then
    if e.content.all fun b => 0x20 ≤ b.toNat && b.toNat < 0x80 then
      return (← shortTime e.content, rest)
    else none
  else if e.tag.number = Der.Tag.generalizedTime then
    return (← longTime e.content, rest)
  else none

end SignPost.Certificate
