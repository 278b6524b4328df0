/-
  Shakedown.Toml.Scalar

  The pieces of a TOML text that hold no other values: blanks, comments,
  strings, keys, numbers, dates and times.  Each is read from the start of
  the remaining characters.
-/
import Shakedown.Text.Hex
import Shakedown.Text.Start
import Shakedown.Time.Calendar
import Shakedown.Toml.Basic

namespace Shakedown.Toml

open Text

/-! ## Blanks, ends of line and comments -/

def isBlank (c : Char) : Bool := c = ' ' || c = '\t'

def skipBlanks (cs : List Char) : List Char := cs.dropWhile isBlank

/-- What follows an end of line. -/
def newline? : List Char → Option (List Char)
  | '\n' :: cs => some cs
  | '\r' :: '\n' :: cs => some cs
  | _ => none

/-- Whether a character may stand in a comment. -/
def isCommentChar (c : Char) : Bool :=
  c = '\t' || (32 ≤ c.toNat && c.toNat ≠ 127)

/-- What follows a comment, if there is one. -/
def skipComment : List Char → List Char
  | '#' :: cs => cs.dropWhile isCommentChar
  | cs => cs

/-- What follows the end of a statement: blanks, a comment, and the end of the
line or of the text. -/
def endOfLine (cs : List Char) : Except Fault (List Char) :=
  let rest := skipComment (skipBlanks cs)
  if rest.isEmpty then .ok []
  else match newline? rest with
    | some rest => .ok rest
    | none => .error (faultAt (skipBlanks cs) "expected newline, `#`")

/-! ## Strings -/

/-- Whether a character stands for itself in a string, whatever its quotes. -/
def isStringChar (c : Char) : Bool :=
  c = '\t' || (32 ≤ c.toNat && c.toNat ≠ 127)

def codePoint? (digits : List Char) : Option Char := do
  let n ← Hex.accumulate? 0 digits
  if n < 0xD800 || (0xDFFF < n && n < 0x110000) then some (Char.ofNat n) else none

/-- The character of an escape, and what follows it. -/
def escape? : List Char → Option (Char × List Char)
  | 'b' :: cs => some ('\x08', cs)
  | 't' :: cs => some ('\t', cs)
  | 'n' :: cs => some ('\n', cs)
  | 'f' :: cs => some ('\x0c', cs)
  | 'r' :: cs => some ('\r', cs)
  | '"' :: cs => some ('"', cs)
  | '\\' :: cs => some ('\\', cs)
  | 'u' :: a :: b :: c :: d :: cs => (codePoint? [a, b, c, d]).map fun x => (x, cs)
  | 'U' :: a :: b :: c :: d :: e :: f :: g :: h :: cs =>
    (codePoint? [a, b, c, d, e, f, g, h]).map fun x => (x, cs)
  | _ => none

/-- The characters up to the closing quote of a string on one line.  The fuel is
at least the number of characters. -/
def basicChars : (fuel : Nat) → List Char → Except Fault (List Char × List Char)
  | 0, cs => .error (faultAt cs "invalid basic string")
  | _, [] => .error (faultAt [] "invalid basic string")
  | fuel + 1, c :: cs =>
    if c = '"' then .ok ([], cs)
    else if c = '\\' then
      match escape? cs with
      | none => .error (faultAt cs "invalid escape sequence\nexpected `b`, `f`, `n`, `r`, `t`, `u`, `U`, `\\`, `\"`")
      | some (x, rest) => do
        let (xs, rest) ← basicChars fuel rest
        return (x :: xs, rest)
    else if isStringChar c then do
      let (xs, rest) ← basicChars fuel cs
      return (c :: xs, rest)
    else .error (faultAt (c :: cs) "invalid basic string")

/-- The characters up to the closing quote of a literal string on one line. -/
def literalChars : List Char → Except Fault (List Char × List Char)
  | [] => .error (faultAt [] "invalid literal string")
  | c :: cs =>
    if c = '\'' then .ok ([], cs)
    else if isStringChar c then do
      let (xs, rest) ← literalChars cs
      return (c :: xs, rest)
    else .error (faultAt (c :: cs) "invalid literal string")

/-- The end of a string over several lines: up to two more quotes belong to it. -/
def closing? (quote : Char) : List Char → Option (List Char × List Char)
  | a :: b :: c :: rest =>
    if a = quote && b = quote && c = quote then
      match rest with
      | d :: e :: more =>
        if d = quote && e = quote then some ([quote, quote], more)
        else if d = quote then some ([quote], e :: more)
        else some ([], rest)
      | [d] => if d = quote then some ([quote], []) else some ([], rest)
      | [] => some ([], [])
    else none
  | _ => none

/-- A text without the blanks and line ends it starts with. -/
def skipLineEnds : List Char → List Char
  | '\r' :: '\n' :: cs => skipLineEnds cs
  | c :: cs => if isBlank c || c = '\n' then skipLineEnds cs else c :: cs
  | [] => []

/-- What follows a line end that a backslash hides, with the blanks and line ends
after it. -/
def hiddenLineEnd? (cs : List Char) : Option (List Char) :=
  (newline? (skipBlanks cs)).map skipLineEnds

/-- The characters up to the closing quotes of a string over several lines. -/
def multilineChars : (fuel : Nat) → List Char → Except Fault (List Char × List Char)
  | 0, cs => .error (faultAt cs "invalid multiline basic string")
  | _, [] => .error (faultAt [] "invalid multiline basic string")
  | fuel + 1, c :: cs =>
    match closing? '"' (c :: cs) with
    | some (quotes, rest) => .ok (quotes, rest)
    | none =>
      if c = '\\' then
        match hiddenLineEnd? cs with
        | some rest => multilineChars fuel rest
        | none => match escape? cs with
          | none => .error (faultAt cs "invalid escape sequence\nexpected `b`, `f`, `n`, `r`, `t`, `u`, `U`, `\\`, `\"`")
          | some (x, rest) => do
            let (xs, rest) ← multilineChars fuel rest
            return (x :: xs, rest)
      else match newline? (c :: cs) with
        | some rest => do
          let (xs, rest) ← multilineChars fuel rest
          return ('\n' :: xs, rest)
        | none =>
          if isStringChar c then do
            let (xs, rest) ← multilineChars fuel cs
            return (c :: xs, rest)
          else .error (faultAt (c :: cs) "invalid multiline basic string")

/-- The characters up to the closing quotes of a literal string over several lines. -/
def multilineLiteralChars : (fuel : Nat) → List Char → Except Fault (List Char × List Char)
  | 0, cs => .error (faultAt cs "invalid multiline literal string")
  | _, [] => .error (faultAt [] "invalid multiline literal string")
  | fuel + 1, c :: cs =>
    match closing? '\'' (c :: cs) with
    | some (quotes, rest) => .ok (quotes, rest)
    | none => match newline? (c :: cs) with
      | some rest => do
        let (xs, rest) ← multilineLiteralChars fuel rest
        return ('\n' :: xs, rest)
      | none =>
        if isStringChar c then do
          let (xs, rest) ← multilineLiteralChars fuel cs
          return (c :: xs, rest)
        else .error (faultAt (c :: cs) "invalid multiline literal string")

/-- What follows a line end right after the opening quotes. -/
def skipFirstNewline (cs : List Char) : List Char :=
  (newline? cs).getD cs

/-- A string of any kind; the text starts with its opening quote. -/
def stringText (cs : List Char) : Except Fault (String × List Char) := do
  let (xs, rest) ← match cs with
    | '"' :: '"' :: '"' :: rest => multilineChars (rest.length + 1) (skipFirstNewline rest)
    | '\'' :: '\'' :: '\'' :: rest => multilineLiteralChars (rest.length + 1) (skipFirstNewline rest)
    | '"' :: rest => basicChars (rest.length + 1) rest
    | '\'' :: rest => literalChars rest
    | _ => .error (faultAt cs "invalid string\nexpected `\"`, `'`")
  return (String.ofList xs, rest)

/-! ## Keys -/

/-- Whether a character may stand in a key without quotes. -/
def isBareKeyChar (c : Char) : Bool :=
  ('a' ≤ c && c ≤ 'z') || ('A' ≤ c && c ≤ 'Z') || Decimal.isDigit c || c = '-' || c = '_'

/-- One name of a key. -/
def simpleKey (cs : List Char) : Except Fault (String × List Char) :=
  match cs with
  | '"' :: rest => do
    let (xs, rest) ← basicChars (rest.length + 1) rest
    return (String.ofList xs, rest)
  | '\'' :: rest => do
    let (xs, rest) ← literalChars rest
    return (String.ofList xs, rest)
  | _ =>
    let name := cs.takeWhile isBareKeyChar
    if name.isEmpty then .error (faultAt cs "invalid key")
    else .ok (String.ofList name, cs.dropWhile isBareKeyChar)

/-- The names of a key after a dot.  The fuel is at least the number of characters. -/
def keyRest : (fuel : Nat) → List Char → Except Fault (List String × List Char)
  | 0, cs => .ok ([], cs)
  | fuel + 1, cs =>
    match skipBlanks cs with
    | '.' :: rest => do
      let (name, rest) ← simpleKey (skipBlanks rest)
      let (names, rest) ← keyRest fuel rest
      return (name :: names, rest)
    | rest => .ok ([], rest)

/-- How many names a key may have less one, and how many arrays and inline tables
may stand in one another less one. -/
def depthLimit : Nat := 80

/-- A key: the names before its last one, the last one, and what follows the
blanks after it. -/
def key (cs : List Char) : Except Fault ((List String × String) × List Char) := do
  let (first, rest) ← simpleKey (skipBlanks cs)
  let (others, rest) ← keyRest (rest.length + 1) rest
  let names := first :: others
  if depthLimit ≤ names.length then .error (faultAt cs "recursion limit exceeded")
  else .ok ((names.dropLast, names.getLast?.getD first), rest)

/-! ## Numbers -/

/-- Digits with single underscores between them, and what follows; nothing if
there is no digit or an underscore is not followed by one. -/
def digitRun? (isDigit : Char → Bool) : List Char → Option (List Char × List Char)
  | [] => none
  | [c] => if isDigit c then some ([c], []) else none
  | c :: d :: rest =>
    if !isDigit c then none
    else if d = '_' then (digitRun? isDigit rest).map fun (ds, rest) => (c :: ds, rest)
    else if isDigit d then (digitRun? isDigit (d :: rest)).map fun (ds, rest) => (c :: ds, rest)
    else some ([c], d :: rest)

/-- A sign, and what follows it. -/
def signOf : List Char → Bool × List Char
  | '-' :: cs => (true, cs)
  | '+' :: cs => (false, cs)
  | cs => (false, cs)

/-- Decimal digits without a leading zero. -/
def decimalRun? : List Char → Option (List Char × List Char)
  | '0' :: cs => some (['0'], cs)
  | cs => digitRun? Decimal.isDigit cs

def numberOf (base : Nat) (digits : List Char) : Nat :=
  digits.foldl (fun n c => n * base + (Hex.value? c).getD 0) 0

/-- An integer in a base other than ten, after its mark. -/
def basedInteger (base : Nat) (cs : List Char) : Except Fault (Toml × List Char) :=
  match digitRun? (fun c => (Hex.value? c).any (· < base)) cs with
  | none => .error (faultAt cs "invalid integer")
  | some (ds, rest) =>
    let n := numberOf base ds
    if n < Nat.pow 2 63 then .ok (.integer n, rest)
    else .error (faultAt cs "number too large to fit in target type")

/-- A fraction, with its point, if there is one. -/
def fractionRun? : List Char → Option (Option (List Char) × List Char)
  | '.' :: cs => (digitRun? Decimal.isDigit cs).map fun (ds, rest) => (some ds, rest)
  | cs => some (none, cs)

/-- An exponent, with its mark, if there is one. -/
def exponentRun? : List Char → Option (Option (Bool × List Char) × List Char)
  | c :: cs =>
    if c = 'e' || c = 'E' then
      let (negative, rest) := signOf cs
      (digitRun? Decimal.isDigit rest).map fun (ds, rest) => (some (negative, ds), rest)
    else some (none, c :: cs)
  | [] => some (none, [])

/-- Whether a decimal number rounds to infinity as a binary number of double
precision: `digits`, of which `places` stand after the point, times ten to the
power of an exponent. -/
def overflows (digits : List Char) (places : Nat) (negative : Bool) (exponent : List Char) : Bool :=
  let mantissa := digits.dropWhile (· = '0')
  -- A greater exponent decides nothing more, and its power could not be computed.
  let e := Nat.min (numberOf 10 exponent) (100000 + digits.length)
  -- Half way between the greatest double and the power of two above it; from there on
  -- numbers round to infinity.
  let limit := Nat.pow 2 1024 - Nat.pow 2 970
  if mantissa.isEmpty then false
  else if negative then limit * Nat.pow 10 (places + e) ≤ numberOf 10 mantissa
  else if 400 + places < mantissa.length + e then true
  else limit * Nat.pow 10 places ≤ numberOf 10 mantissa * Nat.pow 10 e

/-- A number in base ten, as an integer or with a fraction or an exponent. -/
def decimalNumber (cs : List Char) : Except Fault (Toml × List Char) :=
  let (negative, unsigned) := signOf cs
  match decimalRun? unsigned with
  | none => .error (faultAt cs "invalid integer")
  | some (whole, rest) =>
    match fractionRun? rest with
    | none => .error (faultAt rest "invalid floating-point number")
    | some (fraction, rest) =>
      match exponentRun? rest with
      | none => .error (faultAt rest "invalid floating-point number")
      | some (exponent, rest) =>
        match fraction, exponent with
        | none, none =>
          let n := numberOf 10 whole
          if negative then
            if n ≤ Nat.pow 2 63 then .ok (.integer (-n), rest)
            else .error (faultAt cs "number too small to fit in target type")
          else if n < Nat.pow 2 63 then .ok (.integer n, rest)
          else .error (faultAt cs "number too large to fit in target type")
        | _, _ =>
          let places := fraction.getD []
          let (down, power) := exponent.getD (false, [])
          if !negative && overflows (whole ++ places) places.length down power then
            .error (faultAt cs "invalid floating-point number")
          else .ok (.float, rest)

/-! ## Dates and times -/

/-- Exactly `n` digits as a number. -/
def digitsOf? : (n : Nat) → List Char → Option (Nat × List Char)
  | n, cs =>
    let ds := cs.take n
    if ds.length = n && ds.all Decimal.isDigit then some (numberOf 10 ds, cs.drop n) else none

/-- The outcome of looking for a date or a time: it is none, it is a wrong one, or
it is one and this follows. -/
inductive Found where
  | absent
  | wrong
  | present (rest : List Char)

/-- A date, year-month-day. -/
def date (cs : List Char) : Found :=
  match digitsOf? 4 cs with
  | some (year, '-' :: rest) =>
    match digitsOf? 2 rest with
    | some (month, '-' :: rest) =>
      match digitsOf? 2 rest with
      | some (day, rest) =>
        if 1 ≤ month && month ≤ 12 && 1 ≤ day && day ≤ Time.daysIn year month then .present rest
        else .wrong
      | none => .wrong
    | _ => .wrong
  | _ => .absent

/-- A time, hour:minute:second with an optional fraction. -/
def time (cs : List Char) : Found :=
  match digitsOf? 2 cs with
  | some (hour, ':' :: rest) =>
    if 23 < hour then .absent
    else match digitsOf? 2 rest with
      | some (minute, ':' :: rest) =>
        match digitsOf? 2 rest with
        | some (second, rest) =>
          if 59 < minute || 60 < second then .wrong
          else match rest with
            | '.' :: d :: more =>
              if Decimal.isDigit d then .present ((d :: more).dropWhile Decimal.isDigit)
              else .present rest
            | _ => .present rest
        | none => .wrong
      | _ => .wrong
  | _ => .absent

/-- The offset of a time from UTC. -/
def offset (cs : List Char) : Found :=
  match cs with
  | c :: rest =>
    if c = 'Z' || c = 'z' then .present rest
    else if c = '+' || c = '-' then
      match digitsOf? 2 rest with
      | some (hour, ':' :: rest) =>
        match digitsOf? 2 rest with
        | some (minute, rest) => if hour ≤ 23 && minute ≤ 59 then .present rest else .wrong
        | none => .wrong
      | _ => .wrong
    else .absent
  | [] => .absent

def dateOrTime (cs : List Char) : Found :=
  match date cs with
  | .wrong => .wrong
  | .absent => time cs
  | .present rest =>
    match rest with
    | c :: more =>
      if c = 'T' || c = 't' || c = ' ' then
        match time more with
        -- Without a time behind it, the blank or letter is not part of the date.
        | .absent => .present rest
        | .wrong => .wrong
        | .present rest =>
          match offset rest with
          | .absent => .present rest
          | found => found
      else .present rest
    | [] => .present []

/-! ## Values without parts -/

/-- The words for infinity and for no number, after any sign. -/
def specialFloat? (cs : List Char) : Option (List Char) :=
  (after? ['i', 'n', 'f'] cs).orElse fun _ => after? ['n', 'a', 'n'] cs

def dateOrNumber (cs : List Char) : Except Fault (Toml × List Char) :=
  match dateOrTime cs with
  | .present rest => .ok (.datetime, rest)
  | .wrong => .error (faultAt cs "invalid date-time")
  | .absent =>
    match cs with
    | '0' :: 'x' :: rest => basedInteger 16 rest
    | '0' :: 'o' :: rest => basedInteger 8 rest
    | '0' :: 'b' :: rest => basedInteger 2 rest
    | _ =>
      match specialFloat? (signOf cs).2 with
      | some rest => .ok (.float, rest)
      | none => decimalNumber cs

end Shakedown.Toml
