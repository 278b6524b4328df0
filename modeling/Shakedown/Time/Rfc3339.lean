/-
  Shakedown.Time.Rfc3339

  Reading timestamps of RFC 3339.  Date and time are separated by `T`, `t` or
  a space, the offset is `Z`, `z` or signed hours and minutes, a fraction is
  optional and counts up to nanoseconds, and second 60 is a leap second.
-/
import Shakedown.Time.Moment

namespace Shakedown.Time.Rfc3339

open Text

/-- Reads exactly `n` digits. -/
def number? : (n : Nat) → (acc : Nat) → List Char → Option (Nat × List Char)
  | 0, acc, cs => some (acc, cs)
  | n + 1, acc, c :: cs =>
    if Decimal.isDigit c then number? n (acc * 10 + Decimal.value c) cs else none
  | _ + 1, _, [] => none

/-- Reads one given character. -/
def char? (expected : Char) : List Char → Option (List Char)
  | c :: cs => if c = expected then some cs else none
  | [] => none

/-- Reads the mark between date and time. -/
def separator? : List Char → Option (List Char)
  | c :: cs => if c = 'T' || c = 't' || c = ' ' then some cs else none
  | [] => none

/-- Reads an optional fraction as nanoseconds; digits after the ninth are dropped. -/
def fraction? : List Char → Option (Nat × List Char)
  | '.' :: cs =>
    let digits := cs.takeWhile Decimal.isDigit
    let kept := digits.take 9
    if kept.isEmpty then none
    else some (Decimal.accumulate 0 kept * Nat.pow 10 (9 - kept.length), cs.dropWhile Decimal.isDigit)
  | cs => some (0, cs)

/-- Reads the hours and minutes of an offset as minutes. -/
def offsetMinutes? (cs : List Char) : Option (Nat × List Char) := do
  let (hours, cs) ← number? 2 0 cs
  let cs ← char? ':' cs
  let (minutes, cs) ← number? 2 0 cs
  if hours ≤ 23 && minutes ≤ 59 then some (hours * 60 + minutes, cs) else none

/-- Reads an offset from UTC, in minutes.  The minus sign may be the ASCII
hyphen or U+2212. -/
def offset? : List Char → Option (Int × List Char)
  | c :: cs =>
    if c = 'Z' || c = 'z' then some (0, cs)
    else if c = '+' then (offsetMinutes? cs).map fun (m, rest) => ((m : Int), rest)
    else if c = '-' || c = '\u2212' then (offsetMinutes? cs).map fun (m, rest) => (-(m : Int), rest)
    else none
  | [] => none

/-- Reads a timestamp that takes up the whole text. -/
def readChars? (cs : List Char) : Option Moment := do
  let (year, cs) ← number? 4 0 cs
  let cs ← char? '-' cs
  let (month, cs) ← number? 2 0 cs
  let cs ← char? '-' cs
  let (day, cs) ← number? 2 0 cs
  let cs ← separator? cs
  let (hour, cs) ← number? 2 0 cs
  let cs ← char? ':' cs
  let (minute, cs) ← number? 2 0 cs
  let cs ← char? ':' cs
  let (second, cs) ← number? 2 0 cs
  let (nanos, cs) ← fraction? cs
  let (offset, cs) ← offset? cs
  let date : Date := ⟨year, month, day⟩
  if cs.isEmpty && date.valid && hour ≤ 23 && minute ≤ 59 && second ≤ 60 then
    -- A leap second is the second before it, gone on for longer.
    let leap := second == 60
    let inDay := hour * 3600 + minute * 60 + (if leap then 59 else second)
    some {
      seconds := date.toDays * 86400 + inDay - offset * 60
      nanos := if leap then nanos + 1000000000 else nanos }
  else none

def read? (s : String) : Option Moment :=
  readChars? s.toList

end Shakedown.Time.Rfc3339
