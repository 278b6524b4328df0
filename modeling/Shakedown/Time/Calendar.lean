/-
  Shakedown.Time.Calendar

  The proleptic Gregorian calendar: the day count since 1970-01-01 and the
  date it falls on.  Years are taken from March to February, so that a leap
  day is the last day of its year; then 400, 100, 4 and 1 years are split
  off in turn.
-/

namespace Shakedown.Time

/-- A calendar date. -/
structure Date where
  year : Int
  month : Nat
  day : Nat
deriving DecidableEq, Repr

/-- Days from 0000-03-01 to 1970-01-01. -/
def epochOffset : Int := 719468

/-- Whether a year has a 29th of February. -/
def isLeap (year : Int) : Bool :=
  year % 4 == 0 && (year % 100 != 0 || year % 400 == 0)

def daysIn (year : Int) (month : Nat) : Nat :=
  if month == 2 then if isLeap year then 29 else 28
  else if month == 4 || month == 6 || month == 9 || month == 11 then 30
  else 31

/-- Whether a date is on the calendar. -/
def Date.valid (d : Date) : Bool :=
  1 ≤ d.month && d.month ≤ 12 && 1 ≤ d.day && d.day ≤ daysIn d.year d.month

/-- The days before a month, counting months from March. -/
def daysBefore (month : Nat) : Nat :=
  (153 * month + 2) / 5

/-- The day count of a date since 1970-01-01. -/
def Date.toDays (d : Date) : Int :=
  -- The year is taken to start in March, which puts the leap day at its end.
  let march := if 2 < d.month then d.month - 3 else d.month + 9
  let year := if 2 < d.month then d.year else d.year - 1
  let inEra := (year % 400).toNat
  year / 400 * 146097 +
    ((inEra * 365 + inEra / 4 - inEra / 100 + daysBefore march + (d.day - 1) : Nat) : Int) -
    epochOffset

/-- The year of a 400-year span and the day of that year, for a day of the span. -/
def yearOfSpan (day : Nat) : Nat × Nat :=
  -- The last century of a span, and the last year of four, have a day more than the others.
  let centuries := min (day / 36524) 3
  let inCentury := day - centuries * 36524
  let fours := inCentury / 1461
  let inFour := inCentury % 1461
  let years := min (inFour / 365) 3
  (centuries * 100 + fours * 4 + years, inFour - years * 365)

/-- The date of a day count since 1970-01-01. -/
def Date.ofDays (days : Int) : Date :=
  let shifted := days + epochOffset
  let (yearInSpan, dayOfYear) := yearOfSpan (shifted % 146097).toNat
  let march := (5 * dayOfYear + 2) / 153
  let day := dayOfYear - daysBefore march + 1
  let month := if march < 10 then march + 3 else march - 9
  let year := shifted / 146097 * 400 + yearInSpan
  ⟨if month ≤ 2 then year + 1 else year, month, day⟩

end Shakedown.Time
