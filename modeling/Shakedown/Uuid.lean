/-
  Shakedown.Uuid

  128-bit identifiers.  They are written with hyphens in lower case, and read
  in that form, without hyphens, in braces or after `urn:uuid:`, in any case.
-/
import Shakedown.Text.Hex

namespace Shakedown

/-- A 128-bit identifier. -/
structure Uuid where
  value : Nat
  value_lt : value < Nat.pow 2 128
deriving DecidableEq

namespace Uuid

open Text

instance : Inhabited Uuid := ⟨⟨0, by decide⟩⟩

instance : Repr Uuid := ⟨fun u _ => repr u.value⟩

/-- The identifier of a number, which is reduced to 128 bits. -/
def ofNat (n : Nat) : Uuid :=
  ⟨n % Nat.pow 2 128, Nat.mod_lt n (by decide)⟩

/-! ## Writing -/

/-- The 32 hexadecimal digits. -/
def simple (u : Uuid) : List Char :=
  Hex.padded 32 u.value

/-- Hyphens between groups of 8, 4, 4, 4 and 12 digits. -/
def hyphenate (cs : List Char) : List Char :=
  cs.take 8 ++ '-' :: (cs.drop 8).take 4 ++ '-' :: (cs.drop 12).take 4 ++
    '-' :: (cs.drop 16).take 4 ++ '-' :: cs.drop 20

/-- The hyphenated text. -/
def text (u : Uuid) : String :=
  String.ofList (hyphenate u.simple)

/-! ## Reading -/

/-- The identifier of exactly 32 digits. -/
def ofDigits? (cs : List Char) : Option Uuid :=
  if cs.length = 32 then (Hex.accumulate? 0 cs).map ofNat else none

/-- The digits of a hyphenated text, if the hyphens stand where they belong. -/
def unhyphenate? (cs : List Char) : Option (List Char) :=
  let digits := cs.take 8 ++ (cs.drop 9).take 4 ++ (cs.drop 14).take 4 ++
    (cs.drop 19).take 4 ++ cs.drop 24
  if cs.length = 36 && hyphenate digits == cs then some digits else none

/-- Reads the hyphenated form. -/
def ofHyphenated? (cs : List Char) : Option Uuid :=
  (unhyphenate? cs).bind ofDigits?

/-- Reads any of the four forms. -/
def ofChars? (cs : List Char) : Option Uuid :=
  if cs.length = 32 then ofDigits? cs
  else if cs.length = 36 then ofHyphenated? cs
  else if cs.length = 38 then
    if cs.head? = some '\x7b' && cs.getLast? = some '\x7d' then
      ofHyphenated? ((cs.drop 1).take 36)
    else none
  else if cs.length = 45 then
    if (cs.take 9).map Char.toLower = "urn:uuid:".toList then ofHyphenated? (cs.drop 9) else none
  else none

/-- `ofChars?` on strings. -/
def ofText? (s : String) : Option Uuid :=
  ofChars? s.toList

end Uuid

end Shakedown
