/-
  Shakedown.Text.Quoted

  Text between double quotes for messages and debug output.  The mark and
  the backslash take a backslash, line feed, carriage return, tab and NUL
  have letters of their own, and every other character that is not visible
  is written as its code point in braces.  A single quote needs no escape.
-/
import Shakedown.Text.Hex
import Shakedown.Text.Visible

namespace Shakedown.Text

/-- How one character stands between double quotes. -/
def quotedChar (c : Char) : List Char :=
  if c = '"' then ['\\', '"']
  else if c = '\\' then ['\\', '\\']
  else if c = '\n' then ['\\', 'n']
  else if c = '\r' then ['\\', 'r']
  else if c = '\t' then ['\\', 't']
  else if c.toNat = 0 then ['\\', '0']
  else if isVisible c then [c]
  else ['\\', 'u', '\x7b'] ++ Hex.digits c.toNat ++ ['\x7d']

/-- A text between double quotes. -/
def quoted (s : String) : String :=
  String.ofList ('"' :: s.toList.flatMap quotedChar ++ ['"'])

end Shakedown.Text
