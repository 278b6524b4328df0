/-
  Shakedown.Json.Writer

  Compact JSON text.  Strings escape the quote, the backslash and the
  controls below U+0020 (five of them with a letter) and nothing else.
-/
import Shakedown.Json.Basic
import Shakedown.Text.Decimal
import Shakedown.Text.Hex

namespace Shakedown.Json

open Text

/-- How one character stands in a string literal. -/
def escapeChar (c : Char) : List Char :=
  if c = '"' then ['\\', '"']
  else if c = '\\' then ['\\', '\\']
  else if c = '\n' then ['\\', 'n']
  else if c = '\r' then ['\\', 'r']
  else if c = '\t' then ['\\', 't']
  else if c.toNat = 8 then ['\\', 'b']
  else if c.toNat = 12 then ['\\', 'f']
  else if c.toNat < 32 then ['\\', 'u'] ++ Hex.padded 4 c.toNat
  else [c]

def literal (s : String) : String :=
  String.ofList ('"' :: s.toList.flatMap escapeChar ++ ['"'])

/-- Texts one after another with a comma between them. -/
def commaSeparated : List String → String
  | [] => ""
  | [s] => s
  | s :: rest => s ++ "," ++ commaSeparated rest

mutual

/-- The compact text of a value. -/
def text : Json → String
  | .null => "null"
  | .bool true => "true"
  | .bool false => "false"
  | .integer i => Decimal.signedText i
  | .decimal l => l
  | .string s => literal s
  | .garbled => literal "\uFFFD"
  | .array items => "[" ++ commaSeparated (itemTexts items) ++ "]"
  | .object members => "\x7b" ++ commaSeparated (memberTexts members) ++ "\x7d"

def itemTexts : List Json → List String
  | [] => []
  | j :: rest => text j :: itemTexts rest

def memberTexts : List (String × Json) → List String
  | [] => []
  | (name, j) :: rest => (literal name ++ ":" ++ text j) :: memberTexts rest

end

/-! ## In ASCII -/

/-- A character of JSON text in ASCII: its UTF-16 units as escapes where it has to be. -/
def asciiChar (c : Char) : List Char :=
  let n := c.toNat
  let unit (n : Nat) : List Char := '\\' :: 'u' :: Hex.padded 4 n
  if n < 127 then [c]
  else if n < 0x10000 then unit n
  else unit (0xD800 + (n - 0x10000) / 0x400) ++ unit (0xDC00 + (n - 0x10000) % 0x400)

/-- The compact text of a value in ASCII. -/
def asciiText (j : Json) : String :=
  String.ofList (j.text.toList.flatMap asciiChar)

end Shakedown.Json
