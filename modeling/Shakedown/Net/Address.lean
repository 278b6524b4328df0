/-
  Shakedown.Net.Address

  IP addresses and socket addresses.  IPv4 is written in dotted decimal; IPv6
  in lower-case groups without leading zeros, the first longest run of two or
  more zero groups shortened to `::`, and IPv4-mapped addresses with a dotted
  tail.
-/
import Shakedown.Text.Decimal
import Shakedown.Text.Hex

namespace Shakedown.Net

open Text

/-- An IPv4 address. -/
structure Ipv4 where
  a : UInt8
  b : UInt8
  c : UInt8
  d : UInt8
deriving DecidableEq, Repr

/-- An IPv6 address as its eight groups. -/
structure Ipv6 where
  groups : Vector UInt16 8
deriving DecidableEq, Repr

/-- A socket address.  The flow label and scope of an IPv6 socket play no part here. -/
inductive Socket where
  | v4 (ip : Ipv4) (port : UInt16)
  | v6 (ip : Ipv6) (port : UInt16)
deriving DecidableEq, Repr

/-! ## Writing -/

/-- Dotted decimal. -/
def Ipv4.chars (ip : Ipv4) : List Char :=
  Decimal.digits ip.a.toNat ++ '.' :: Decimal.digits ip.b.toNat ++
    '.' :: Decimal.digits ip.c.toNat ++ '.' :: Decimal.digits ip.d.toNat

/-- Groups with colons between them. -/
def groupChars : List UInt16 → List Char
  | [] => []
  | [g] => Hex.digits g.toNat
  | g :: rest => Hex.digits g.toNat ++ ':' :: groupChars rest

/-- The number of zeros a list starts with. -/
def zeroRun : List UInt16 → Nat
  | 0 :: rest => zeroRun rest + 1
  | _ => 0

/-- The start and length of the first longest run of zeros, with the runs from
position `start` on still to be seen. -/
def longestZeroRun (start : Nat) (best : Nat × Nat) : List UInt16 → Nat × Nat
  | [] => best
  | g :: rest =>
    let run := zeroRun (g :: rest)
    -- Of two runs of one length the first is kept.
    longestZeroRun (start + 1) (if best.2 < run then (start, run) else best) rest

/-- The IPv4 address that a mapped IPv6 address carries. -/
def Ipv6.mapped? (ip : Ipv6) : Option Ipv4 :=
  match ip.groups.toList with
  | [0, 0, 0, 0, 0, 0xFFFF, h, l] =>
    some ⟨(h >>> 8).toUInt8, h.toUInt8, (l >>> 8).toUInt8, l.toUInt8⟩
  | _ => none

/-- The groups of an IPv6 address, the first longest run of zeros shortened. -/
def Ipv6.shortened (ip : Ipv6) : List Char :=
  let gs := ip.groups.toList
  let (start, run) := longestZeroRun 0 (0, 0) gs
  -- A single zero is written out.
  if 1 < run then
    groupChars (gs.take start) ++ ':' :: ':' :: groupChars (gs.drop (start + run))
  else groupChars gs

/-- The canonical text of an IPv6 address. -/
def Ipv6.chars (ip : Ipv6) : List Char :=
  match ip.mapped? with
  | some v4 => "::ffff:".toList ++ v4.chars
  | none => ip.shortened

/-! ## Reading -/

/-- Reads a decimal byte: up to three digits without a leading zero. -/
def octet? (cs : List Char) : Option UInt8 :=
  if cs.length ≤ 3 && (cs.length == 1 || cs.head? != some '0') then
    ((Decimal.read? cs).filter (· ≤ 255)).map UInt8.ofNat
  else none

/-- Reads dotted decimal. -/
def Ipv4.read? (cs : List Char) : Option Ipv4 :=
  match cs.splitOn '.' with
  | [a, b, c, d] => do return ⟨← octet? a, ← octet? b, ← octet? c, ← octet? d⟩
  | _ => none

/-- Reads a group of one to four hexadecimal digits. -/
def group? (cs : List Char) : Option UInt16 :=
  if cs.isEmpty || 4 < cs.length then none
  else (Hex.accumulate? 0 cs).map UInt16.ofNat

/-- Reads groups with colons between them; the last one may be a dotted IPv4
address, which stands for two groups. -/
def groups? : List (List Char) → Option (List UInt16)
  | [] => some []
  | [last] =>
    match group? last with
    | some g => some [g]
    | none => (Ipv4.read? last).map fun v =>
      [UInt16.ofNat (v.a.toNat * 256 + v.b.toNat), UInt16.ofNat (v.c.toNat * 256 + v.d.toNat)]
  | cs :: rest => do return (← group? cs) :: (← groups? rest)

/-- Cuts a text at the first `::`. -/
def cutAtGap : List Char → Option (List Char × List Char)
  | ':' :: ':' :: rest => some ([], rest)
  | c :: rest => (cutAtGap rest).map fun (l, r) => (c :: l, r)
  | [] => none

/-- The groups of one side of a gap. -/
def sideGroups? (cs : List Char) : Option (List UInt16) :=
  if cs.isEmpty then some [] else groups? (cs.splitOn ':')

def Ipv6.read? (cs : List Char) : Option Ipv6 := do
  let gs ← match cutAtGap cs with
    | some (left, right) => do
      let l ← sideGroups? left
      let r ← sideGroups? right
      -- A dotted address stands at the very end only, and a gap for one group at least.
      if left.contains '.' || 7 < l.length + r.length then none
      some (l ++ List.replicate (8 - l.length - r.length) 0 ++ r)
    | none => sideGroups? cs
  if h : gs.length = 8 then some ⟨⟨gs.toArray, by simpa using h⟩⟩ else none

/-- Reads a decimal number of up to five digits that fits 16 bits. -/
def portNumber? (cs : List Char) : Option UInt16 :=
  ((Decimal.read? cs).filter (· ≤ 65535)).map UInt16.ofNat

/-- Cuts a text at its last occurrence of a mark. -/
def cutAtLast (mark : Char) (cs : List Char) : Option (List Char × List Char) :=
  let tail := cs.reverse.takeWhile (· ≠ mark)
  match cs.reverse.dropWhile (· ≠ mark) with
  | [] => none
  | _ :: before => some (before.reverse, tail.reverse)

/-- Reads a socket address: `a.b.c.d:port`, or `[ip]:port` where a scope number
may follow the address after `%`. -/
def Socket.read? (s : String) : Option Socket := do
  let (host, port) ← cutAtLast ':' s.toList
  let port ← portNumber? port
  match host with
  | '[' :: rest => do
    if rest.getLast? ≠ some ']' then none
    let inner := rest.dropLast
    let address := inner.takeWhile (· ≠ '%')
    let scope := inner.dropWhile (· ≠ '%')
    if !scope.isEmpty && (Decimal.read? (scope.drop 1)).isNone then none
    return .v6 (← Ipv6.read? address) port
  | _ => return .v4 (← Ipv4.read? host) port

end Shakedown.Net
