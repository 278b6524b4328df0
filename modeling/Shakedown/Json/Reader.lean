/-
  Shakedown.Json.Reader

  Reading JSON text.  Blanks are space, tab, line feed and carriage return;
  a value stands alone in its text; raw controls in string literals and
  escapes other than those of the standard are refused.

  A text is given as its characters, with `none` for each run of bytes among
  them that is no UTF-8.  Such a run may stand in a string literal, which then
  spells no text, and nowhere else.
-/
import Shakedown.Json.Basic
import Shakedown.Text.Decimal
import Shakedown.Text.Hex
import Shakedown.Text.Start
import Shakedown.Text.Utf8

namespace Shakedown.Json

open Text

/-! ## Blanks -/

/-- The characters that may stand between tokens. -/
def isSpace (c : Char) : Bool :=
  c = ' ' || c = '\t' || c = '\n' || c = '\r'

/-- What follows the blanks. -/
def skipSpace (cs : List (Option Char)) : List (Option Char) :=
  cs.dropWhile (·.any isSpace)

/-! ## Strings -/

/-- A piece of a string literal: a character, the UTF-16 unit of a `\u` escape, or bytes
that are no UTF-8. -/
inductive Piece where
  | char (c : Char)
  | unit (n : Nat)
  | broken

/-- The character of a one-letter escape. -/
def escaped? (c : Char) : Option Char :=
  if c = '"' || c = '\\' || c = '/' then some c
  else if c = 'b' then some '\x08'
  else if c = 'f' then some '\x0c'
  else if c = 'n' then some '\n'
  else if c = 'r' then some '\r'
  else if c = 't' then some '\t'
  else none

/-- The pieces up to the closing quote, and what follows it. -/
def pieces? : List (Option Char) → Option (List Piece × List (Option Char))
  | [] => none
  | some '"' :: rest => some ([], rest)
  | some '\\' :: some 'u' :: some a :: some b :: some c :: some d :: rest => do
    let n ← Hex.accumulate? 0 [a, b, c, d]
    let (ps, rest) ← pieces? rest
    return (.unit n :: ps, rest)
  | some '\\' :: some e :: rest => do
    let c ← escaped? e
    let (ps, rest) ← pieces? rest
    return (.char c :: ps, rest)
  | some c :: rest => do
    if c.toNat < 32 || c = '\\' then none
    let (ps, rest) ← pieces? rest
    return (.char c :: ps, rest)
  | none :: rest => do
    let (ps, rest) ← pieces? rest
    return (.broken :: ps, rest)

/-- The text that pieces spell, if none is broken and every surrogate stands in a pair. -/
def assemble? : List Piece → Option (List Char)
  | [] => some []
  | .broken :: _ => none
  | .char c :: ps => (assemble? ps).map (c :: ·)
  | [.unit n] => if 0xD800 ≤ n && n ≤ 0xDFFF then none else some [Char.ofNat n]
  | .unit _ :: .broken :: _ => none
  | .unit n :: .char c :: ps =>
    if 0xD800 ≤ n && n ≤ 0xDFFF then none
    else (assemble? ps).map fun cs => Char.ofNat n :: c :: cs
  | .unit n :: .unit m :: ps =>
    -- A high surrogate has to be followed by a low one, and both make one character.
    if 0xD800 ≤ n && n ≤ 0xDBFF then
      if 0xDC00 ≤ m && m ≤ 0xDFFF then
        (assemble? ps).map (Char.ofNat (0x10000 + (n - 0xD800) * 0x400 + (m - 0xDC00)) :: ·)
      else none
    else if 0xDC00 ≤ n && n ≤ 0xDFFF then none
    else (assemble? (.unit m :: ps)).map (Char.ofNat n :: ·)

/-! ## Numbers -/

/-- The digits that a text starts with, at least one. -/
def digits? (cs : List Char) : Option (List Char × List Char) :=
  let ds := cs.takeWhile Decimal.isDigit
  if ds.isEmpty then none else some (ds, cs.dropWhile Decimal.isDigit)

/-- The integer part of a number: zero, or digits that do not start with zero. -/
def integerPart? : List Char → Option (List Char × List Char)
  | '0' :: rest => some (['0'], rest)
  | cs => digits? cs

/-- The fraction of a number, with its point. -/
def fractionPart? : List Char → Option (List Char × List Char)
  | '.' :: rest => (digits? rest).map fun (ds, rest) => ('.' :: ds, rest)
  | cs => some ([], cs)

/-- The exponent of a number, with its mark and sign. -/
def exponentPart? : List Char → Option (List Char × List Char)
  | c :: rest =>
    if c = 'e' || c = 'E' then
      let (sign, rest) := match rest with
        | '+' :: r => (['+'], r)
        | '-' :: r => (['-'], r)
        | r => ([], r)
      (digits? rest).map fun (ds, rest) => (c :: sign ++ ds, rest)
    else some ([], c :: rest)
  | [] => some ([], [])

/-- Reads a number. -/
def number? (cs : List Char) : Option (Json × List Char) := do
  let (minus, body) := match cs with
    | '-' :: rest => (true, rest)
    | _ => (false, cs)
  let (whole, rest) ← integerPart? body
  let (fraction, rest) ← fractionPart? rest
  let (exponent, rest) ← exponentPart? rest
  let n := Decimal.accumulate 0 whole
  -- No integer is minus zero, so that is kept as a decimal.
  if fraction.isEmpty && exponent.isEmpty && !(minus && n == 0) then
    return (.integer (if minus then -(n : Int) else n), rest)
  else
    let sign := if minus then ['-'] else []
    return (.decimal (String.ofList (sign ++ whole ++ fraction ++ exponent)), rest)

/-- Whether a character may stand in a number. -/
def isNumberChar (c : Char) : Bool :=
  Decimal.isDigit c || "+-.eE".toList.contains c

/-- The number that a text starts with: it takes all the characters that may stand in
one. -/
def leadingNumber? (cs : List (Option Char)) : Option (Json × List (Option Char)) :=
  let run := cs.takeWhile (·.any isNumberChar)
  match number? (run.filterMap id) with
  | some (j, []) => some (j, cs.drop run.length)
  | _ => none

/-! ## Values -/

/-- A string literal of given pieces. -/
def ofPieces (ps : List Piece) : Json :=
  match assemble? ps with
  | some cs => .string (String.ofList cs)
  | none => .garbled

/-- An object whose names are made of given pieces. -/
def ofMembers (members : List (List Piece × Json)) : Json :=
  match members.mapM fun m => (assemble? m.1).map fun name => (String.ofList name, m.2) with
  | some members => .object members
  | none => .garbled

mutual

/-- Reads a value, blanks before it skipped, with at most `fuel` nested steps. -/
def value? : (fuel : Nat) → List (Option Char) → Option (Json × List (Option Char))
  | 0, _ => none
  | fuel + 1, cs =>
    match skipSpace cs with
    | some '"' :: rest => (pieces? rest).map fun (ps, rest) => (ofPieces ps, rest)
    | some '[' :: rest =>
      match skipSpace rest with
      | some ']' :: rest => some (.array [], rest)
      | rest => (items? fuel rest).map fun (items, rest) => (.array items, rest)
    | some '\x7b' :: rest =>
      match skipSpace rest with
      | some '\x7d' :: rest => some (.object [], rest)
      | rest => (members? fuel rest).map fun (members, rest) => (ofMembers members, rest)
    | some 't' :: rest => (after? (['r', 'u', 'e'].map some) rest).map (.bool true, ·)
    | some 'f' :: rest => (after? (['a', 'l', 's', 'e'].map some) rest).map (.bool false, ·)
    | some 'n' :: rest => (after? (['u', 'l', 'l'].map some) rest).map (.null, ·)
    | rest => leadingNumber? rest

/-- Reads the items of an array and its closing bracket. -/
def items? : (fuel : Nat) → List (Option Char) → Option (List Json × List (Option Char))
  | 0, _ => none
  | fuel + 1, cs => do
    let (j, rest) ← value? fuel cs
    match skipSpace rest with
    | some ',' :: rest => do
      let (items, rest) ← items? fuel rest
      return (j :: items, rest)
    | some ']' :: rest => return ([j], rest)
    | _ => none

/-- Reads the members of an object and its closing brace. -/
def members? : (fuel : Nat) → List (Option Char) →
    Option (List (List Piece × Json) × List (Option Char))
  | 0, _ => none
  | fuel + 1, cs =>
    match skipSpace cs with
    | some '"' :: rest => do
      let (ps, rest) ← pieces? rest
      match skipSpace rest with
      | some ':' :: rest => do
        let (j, rest) ← value? fuel rest
        match skipSpace rest with
        | some ',' :: rest => do
          let (members, rest) ← members? fuel rest
          return ((ps, j) :: members, rest)
        | some '\x7d' :: rest => return ([(ps, j)], rest)
        | _ => none
      | _ => none
    | _ => none

end

/-- Reads the one value that characters hold, with the runs among them that are none. -/
def readChars? (cs : List (Option Char)) : Option Json := do
  -- No value takes more nested steps than it has characters.
  let (j, rest) ← value? (cs.length + 1) cs
  if (skipSpace rest).isEmpty then some j else none

/-- Reads the one value that a text holds. -/
def read? (s : String) : Option Json :=
  readChars? (s.toList.map some)

/-- Reads the one value that the bytes of a text hold. -/
def readBytes? (bytes : List UInt8) : Option Json :=
  readChars? (Utf8.pieces bytes)

end Shakedown.Json
