/-
  Shakedown.Time.Moment

  Moments of UTC with nanosecond precision.  A moment is a count of seconds
  since the epoch and a fraction; a fraction of a whole second or more marks
  a leap second, which a clock shows as second 60.  Moments end with the
  year 262142.
-/
import Shakedown.Text.Decimal
import Shakedown.Time.Calendar
import Shakedown.Time.Duration

namespace Shakedown

open Text (Decimal.padded Decimal.text)

/-- A moment of UTC. -/
structure Moment where
  seconds : Int
  nanos : Nat
deriving DecidableEq, Repr, Inhabited

namespace Moment

def epoch : Moment := ⟨0, 0⟩

/-- The last second that can be represented: +262142-12-31T23:59:59Z. -/
def maxSeconds : Int := 8210266876799

/-- The first second that can be represented: -262143-01-01T00:00:00Z. -/
def minSeconds : Int := -8334601228800

/-- Whether a moment lies in a leap second. -/
def isLeap (m : Moment) : Bool := 1000000000 ≤ m.nanos

/-- Nanoseconds since the epoch, a leap second counted as its own second. -/
def total (m : Moment) : Int := m.seconds * 1000000000 + m.nanos

/-- Milliseconds since the epoch, rounded down. -/
def millis (m : Moment) : Int := m.seconds * 1000 + (m.nanos / 1000000 : Nat)

/-- The longest span that can be added to a moment, in nanoseconds. -/
def maxSpan : Nat := 9223372036854775807 * 1000000

/-- The moment `d` after `m`, if the span and the sum can be represented.  A sum
that stays inside a leap second keeps it; one that leaves it counts on from
the second the leap second repeats. -/
def add? (m : Moment) (d : Duration) : Option Moment :=
  if maxSpan < d.nanoseconds then none
  else if m.isLeap && d.seconds == 0 && m.nanos + d.subsecond < 2000000000 then
    some ⟨m.seconds, m.nanos + d.subsecond⟩
  else
    let nanos := (if m.isLeap then m.nanos - 1000000000 else m.nanos) + d.subsecond
    let seconds := m.seconds + d.seconds + (nanos / 1000000000 : Nat)
    if seconds ≤ maxSeconds then some ⟨seconds, nanos % 1000000000⟩ else none

/-- Whether `a` is earlier than `b`. -/
def before (a b : Moment) : Bool :=
  a.seconds < b.seconds || (a.seconds == b.seconds && a.nanos < b.nanos)

/-! ## Text -/

/-- A year: four digits, with a sign and at least four digits outside 0 to 9999. -/
def yearText (y : Int) : List Char :=
  if 0 ≤ y ∧ y ≤ 9999 then Decimal.padded 4 y.toNat
  else
    let n := y.natAbs
    (if y < 0 then '-' else '+') ::
      (if n ≤ 9999 then Decimal.padded 4 n else Text.Decimal.digits n)

/-- Date and time up to the whole second, with `T` between them. -/
def secondsText (m : Moment) : List Char :=
  let date := Time.Date.ofDays (m.seconds / 86400)
  let inDay := (m.seconds % 86400).toNat
  let second := inDay % 60 + (if m.isLeap then 1 else 0)
  yearText date.year ++ '-' :: Decimal.padded 2 date.month ++ '-' :: Decimal.padded 2 date.day ++
    'T' :: Decimal.padded 2 (inDay / 3600) ++ ':' :: Decimal.padded 2 (inDay / 60 % 60) ++
    ':' :: Decimal.padded 2 second

/-- The timestamp of a moment with exactly three fraction digits, truncated. -/
def timestamp (m : Moment) : String :=
  String.ofList (m.secondsText ++ '.' :: Decimal.padded 3 (m.nanos % 1000000000 / 1000000) ++ ['Z'])

/-- The fraction of a moment in the fewest of 0, 3, 6 or 9 digits that are exact. -/
def fractionText (nanos : Nat) : List Char :=
  if nanos = 0 then []
  else if nanos % 1000000 = 0 then '.' :: Decimal.padded 3 (nanos / 1000000)
  else if nanos % 1000 = 0 then '.' :: Decimal.padded 6 (nanos / 1000)
  else '.' :: Decimal.padded 9 nanos

/-- The exact text of a moment, for debug output. -/
def exactText (m : Moment) : String :=
  String.ofList (m.secondsText ++ fractionText (m.nanos % 1000000000) ++ ['Z'])

end Moment

end Shakedown
