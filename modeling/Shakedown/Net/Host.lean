/-
  Shakedown.Net.Host

  The host of a URL: a domain, an IPv4 address in any of its numeric
  spellings, or an IPv6 address in brackets.  Domains are written in ASCII
  and lower case.
-/
import Shakedown.Net.Address
import Shakedown.Net.Percent
import Shakedown.Net.Punycode
import Shakedown.Text.Blank

namespace Shakedown.Net

open Text

inductive Host where
  /-- A domain, or any text in the URL of a scheme that has no domains. -/
  | name (text : List Char)
  | v4 (ip : Ipv4)
  | v6 (ip : Ipv6)
deriving DecidableEq, Repr

namespace Host

/-- The text of a host. -/
def chars : Host → List Char
  | .name text => text
  | .v4 ip => ip.chars
  | .v6 ip => '[' :: ip.shortened ++ [']']

/-! ## Numeric hosts -/

/-- Reads digits of a radix up to 16. -/
def digits? (radix : Nat) (cs : List Char) : Option Nat :=
  cs.foldl (fun n c => do
    let d ← Hex.value? c
    if d < radix then return (← n) * radix + d else none) (some 0)

/-- Reads a number: hexadecimal after `0x`, octal after `0`, and else decimal. -/
def number? : List Char → Option Nat
  | [] => none
  | ['0'] => some 0
  | '0' :: c :: rest => if c = 'x' || c = 'X' then digits? 16 rest else digits? 8 (c :: rest)
  | cs => digits? 10 cs

/-- The parts of a name between its dots, an empty last one dropped. -/
def dotted (cs : List Char) : List (List Char) :=
  let parts := cs.splitOn '.'
  if 1 < parts.length && parts.getLast? == some [] then parts.dropLast else parts

/-- Whether a name has to be an IPv4 address: its last part is a number. -/
def endsInNumber (cs : List Char) : Bool :=
  match (dotted cs).getLast? with
  | some last => (!last.isEmpty && last.all Decimal.isDigit) || (number? last).isSome
  | none => false

/-- The address of the numbers between the dots: each but the last is a byte, and the
last one fills the rest. -/
def ofNumbers? (bytes : List Nat) (last : Nat) : Option Ipv4 :=
  if bytes.length < 4 && bytes.all (· ≤ 255) && last < Nat.pow 256 (4 - bytes.length) then
    -- The leading bytes in their places, zeros below them, and the last number added.
    let n := (bytes ++ List.replicate (4 - bytes.length) 0).foldl (fun n b => n * 256 + b) 0 + last
    some ⟨UInt8.ofNat (n / 16777216), UInt8.ofNat (n / 65536), UInt8.ofNat (n / 256), UInt8.ofNat n⟩
  else none

/-- Reads an IPv4 address in any spelling. -/
def ipv4? (cs : List Char) : Option Ipv4 := do
  let numbers ← (dotted cs).mapM number?
  ofNumbers? numbers.dropLast (← numbers.getLast?)

/-! ## Domains -/

/-- Whether a character may not stand in a host of any scheme. -/
def isForbidden (c : Char) : Bool :=
  c.toNat = 0 || "\t\n\r #/:<>?@[\\]^|".toList.contains c

/-- Whether a character may not stand in a domain. -/
def isForbiddenInDomain (c : Char) : Bool :=
  isForbidden c || c.toNat < 32 || c = '%' || c.toNat = 127

/-- A character as it is written in a domain: in lower case, with full-width forms,
ideographic full stops and blanks as ASCII, and nothing for soft hyphens and the like. -/
def domainChar (c : Char) : List Char :=
  let n := c.toNat
  if 0x80 ≤ n && Text.isBlank c then [' ']
  else if 0xFF01 ≤ n && n ≤ 0xFF5E then [(Char.ofNat (n - 0xFEE0)).toLower]
  else if n = 0x3002 || n = 0xFF61 then ['.']
  else if n = 0xAD || n = 0x200B || n = 0x2060 || n = 0xFEFF then []
  -- Capitals: Latin with accents (0xD7 is a multiplication sign), Greek, Cyrillic.
  else if 0xC0 ≤ n && n ≤ 0xDE && n ≠ 0xD7 then [Char.ofNat (n + 32)]
  else if 0x391 ≤ n && n ≤ 0x3A9 then [Char.ofNat (n + 32)]
  else if 0x410 ≤ n && n ≤ 0x42F then [Char.ofNat (n + 32)]
  else if 0x400 ≤ n && n ≤ 0x40F then [Char.ofNat (n + 80)]
  else [c.toLower]

/-- Whether a label is what its own text stands for: it is written as in a domain, and
it holds something outside ASCII but no controls. -/
def isPlainLabel (label : List Char) : Bool :=
  label.flatMap domainChar == label && label.any (fun c => 0x80 ≤ c.toNat) &&
    !label.any fun c => 0x80 ≤ c.toNat && c.toNat < 0xA0

/-- A label in ASCII.  One that is marked as told in ASCII has to tell a plain label. -/
def asciiLabel? (label : List Char) : Option (List Char) :=
  match label with
  | 'x' :: 'n' :: '-' :: '-' :: told =>
    if (Punycode.decode? told).any isPlainLabel then some label else none
  | _ =>
    if label.all fun c => c.toNat < 128 then some label
    else if isPlainLabel label then some ("xn--".toList ++ Punycode.encode label)
    else none

/-- Texts with dots between them. -/
def joinDots : List (List Char) → List Char
  | [] => []
  | [label] => label
  | label :: rest => label ++ '.' :: joinDots rest

/-- A domain in ASCII and lower case. -/
def asciiDomain? (cs : List Char) : Option (List Char) :=
  (((cs.flatMap domainChar).splitOn '.').mapM asciiLabel?).map joinDots

/-! ## Reading -/

/-- Reads what stands between brackets. -/
def bracketed? (cs : List Char) : Option Host :=
  if cs.getLast? = some ']' then (Ipv6.read? cs.dropLast).map .v6 else none

/-- Reads the host of a special scheme. -/
def ofDomain? (cs : List Char) : Option Host :=
  match cs with
  | '[' :: rest => bracketed? rest
  | _ => do
    let text ← Utf8.decode? (Percent.decode cs)
    let domain ← asciiDomain? text.toList
    if domain.isEmpty || domain.any isForbiddenInDomain then none
    if endsInNumber domain then return .v4 (← ipv4? domain) else return .name domain

/-- Reads the host of any other scheme. -/
def ofText? (cs : List Char) : Option Host :=
  match cs with
  | '[' :: rest => bracketed? rest
  | _ => if cs.any isForbidden then none else some (.name (Percent.encode Percent.isControl cs))

end Host

end Shakedown.Net
