/-
  Shakedown.Net.Form

  Queries as lists of names and values.  In writing, letters, digits and
  `*-._` stand for themselves and a blank becomes `+`; all else is
  percent-encoded.  In reading, a piece without `=` is a name with an empty
  value, empty pieces are skipped, and ill-formed bytes are replaced.
-/
import Shakedown.Net.Percent

namespace Shakedown.Net.Form

open Text

/-- Whether a character stands for itself. -/
def isPlain (c : Char) : Bool :=
  let n := c.toNat
  (48 ≤ n && n ≤ 57) || (65 ≤ n && n ≤ 90) || (97 ≤ n && n ≤ 122) || "*-._".toList.contains c

/-- A name or a value as it is written. -/
def component (cs : List Char) : List Char :=
  cs.flatMap fun c => if c = ' ' then ['+'] else if isPlain c then [c] else Percent.char c

/-- A name and its value as they are written. -/
def pair (p : String × String) : List Char :=
  component p.1.toList ++ '=' :: component p.2.toList

/-- Names and values added to a query, with `&` before each unless nothing stands
there yet. -/
def append (query : List Char) (pairs : List (String × String)) : List Char :=
  pairs.foldl (fun q p => if q.isEmpty then pair p else q ++ '&' :: pair p) query

/-- Reads a name or a value. -/
def readComponent (cs : List Char) : String :=
  Utf8.lossyText (Percent.decode (cs.map fun c => if c = '+' then ' ' else c))

/-- Reads a name and its value. -/
def readPair (cs : List Char) : String × String :=
  (readComponent (cs.takeWhile (· ≠ '=')), readComponent ((cs.dropWhile (· ≠ '=')).drop 1))

/-- Reads what stands between the `&` marks of a query. -/
def read (query : List Char) : List (String × String) :=
  ((query.splitOn '&').filter fun p => !p.isEmpty).map readPair

end Shakedown.Net.Form
