/-
  Shakedown.Text.Base64

  Bytes in base 64: three bytes become four characters, and `=` fills up the
  last group.
-/

namespace Shakedown.Text.Base64

/-- The character of a number below 64. -/
def digit (n : Nat) : Char :=
  if n < 26 then Char.ofNat (65 + n)
  else if n < 52 then Char.ofNat (71 + n)
  else if n < 62 then Char.ofNat (n - 4)
  else if n = 62 then '+' else '/'

/-- The first `count` characters of a group of three bytes. -/
def group (count n : Nat) : List Char :=
  [digit (n / 262144), digit (n / 4096 % 64), digit (n / 64 % 64), digit (n % 64)].take count

/-- Bytes in base 64. -/
def encode : List UInt8 → List Char
  | [] => []
  | [a] => group 2 (a.toNat * 65536) ++ ['=', '=']
  | [a, b] => group 3 (a.toNat * 65536 + b.toNat * 256) ++ ['=']
  | a :: b :: c :: rest => group 4 (a.toNat * 65536 + b.toNat * 256 + c.toNat) ++ encode rest

end Shakedown.Text.Base64
