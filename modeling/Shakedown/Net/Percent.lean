/-
  Shakedown.Net.Percent

  Percent-encoding: characters that have no place where they stand are
  written as `%` and two hexadecimal digits for each of their bytes.  Which
  ASCII characters those are depends on the place; controls and everything
  outside ASCII always are.
-/
import Shakedown.Text.Hex
import Shakedown.Text.Utf8

namespace Shakedown.Net.Percent

open Text

/-! ## What is encoded where -/

/-- Whether a character is a control or lies outside ASCII. -/
def isControl (c : Char) : Bool :=
  c.toNat < 32 || 127 ≤ c.toNat

/-- What is encoded in a fragment. -/
def inFragment (c : Char) : Bool :=
  isControl c || " \"<>`".toList.contains c

/-- What is encoded in a query. -/
def inQuery (c : Char) : Bool :=
  isControl c || " \"#<>".toList.contains c

/-- What is encoded in the query of a special scheme. -/
def inSpecialQuery (c : Char) : Bool :=
  inQuery c || c = '\''

/-- What is encoded in a path. -/
def inPath (c : Char) : Bool :=
  inQuery c || "?^`\x7b\x7d".toList.contains c

/-- What is encoded in a user name or a password. -/
def inUserInfo (c : Char) : Bool :=
  inPath c || "/:;=@[\\]|".toList.contains c

/-! ## Encoding and decoding -/

/-- A byte as `%` and two upper-case digits. -/
def byte (b : UInt8) : List Char :=
  ['%', Hex.upperDigit (b.toNat / 16), Hex.upperDigit (b.toNat % 16)]

/-- A character as its bytes. -/
def char (c : Char) : List Char :=
  (Utf8.encode c.toString).flatMap byte

/-- A text with the characters of a class encoded. -/
def encode (encoded : Char → Bool) (cs : List Char) : List Char :=
  cs.flatMap fun c => if encoded c then char c else [c]

/-- The bytes of a text, with every `%` that two digits follow decoded. -/
def decode : List Char → List UInt8
  | [] => []
  | '%' :: h :: l :: rest =>
    match Hex.value? h, Hex.value? l with
    | some h, some l => UInt8.ofNat (h * 16 + l) :: decode rest
    | _, _ => Utf8.encode "%" ++ decode (h :: l :: rest)
  | c :: rest => Utf8.encode c.toString ++ decode rest

theorem encode_append (encoded : Char → Bool) (xs ys : List Char) :
    encode encoded (xs ++ ys) = encode encoded xs ++ encode encoded ys := by
  simp [encode]

end Shakedown.Net.Percent
