/-!
# Calendar

Days of the proleptic Gregorian calendar, the neighbours of a day, and moments of a day in
universal time. A second may be the 60th, where a leap second was inserted.
-/

namespace SignPost.Time

def isLeap (year : Int) : Bool :=
  year % 4 = 0 && (year % 100 ≠ 0 || year % 400 = 0)

def daysInMonth (year : Int) (month : Nat) : Nat :=
  if month = 2 then if isLeap year then 29 else 28
  else if month = 4 ∨ month = 6 ∨ month = 9 ∨ month = 11 then 30
  else 31

structure Date where
  year : Int
  month : Nat
  day : Nat
deriving DecidableEq, Repr

def Date.valid (d : Date) : Bool :=
  1 ≤ d.month && d.month ≤ 12 && 1 ≤ d.day && d.day ≤ daysInMonth d.year d.month

def Date.next (d : Date) : Date :=
  if d.day < daysInMonth d.year d.month then { d with day := d.day + 1 }
  else if d.month < 12 then ⟨d.year, d.month + 1, 1⟩
  else ⟨d.year + 1, 1, 1⟩

def Date.previous (d : Date) : Date :=
  if 1 < d.day then { d with day := d.day - 1 }
  else if 1 < d.month then ⟨d.year, d.month - 1, daysInMonth d.year (d.month - 1)⟩
  else ⟨d.year - 1, 12, 31⟩

/-- How many days a day lies after the first of January 1970. Years are counted from March, so
that the leap day is the last of its year. -/
def Date.sinceEpoch (d : Date) : Int :=
  let year := if d.month ≤ 2 then d.year - 1 else d.year
  let era := Int.fdiv year 400
  let yearOfEra := year - era * 400
  let month := (d.month + 9) % 12
  let dayOfYear := (153 * month + 2) / 5 + d.day - 1
  let dayOfEra := yearOfEra * 365 + yearOfEra / 4 - yearOfEra / 100 + Int.ofNat dayOfYear
  era * 146097 + dayOfEra - 719468

/-- A moment in universal time, to the nanosecond. -/
structure Moment where
  date : Date
  hour : Nat
  minute : Nat
  second : Nat
  nanosecond : Nat
deriving DecidableEq, Repr

def Moment.valid (m : Moment) : Bool :=
  m.date.valid && m.hour ≤ 23 && m.minute ≤ 59 && m.second ≤ 60 && m.nanosecond < 1000000000

/-- Seconds since the beginning of 1970, leap seconds not counted. -/
def Moment.unixSeconds (m : Moment) : Int :=
  m.date.sinceEpoch * 86400 + Int.ofNat (m.hour * 3600 + m.minute * 60 + m.second)

/-- The moment this many minutes earlier or, for a negative number, later; at most a day. -/
def Moment.minus (m : Moment) (minutes : Int) : Moment :=
  let total := Int.ofNat (m.hour * 60 + m.minute) - minutes
  let date := if total < 0 then m.date.previous else if total < 1440 then m.date else m.date.next
  let ofDay := (total % 1440).toNat
  { m with date := date, hour := ofDay / 60, minute := ofDay % 60 }

end SignPost.Time
