/-
  Shakedown.Text.Utf8

  Bytes as UTF-8.  A byte sequence is read as a sequence of pieces, each a
  character or a maximal ill-formed run; replacing every such run by U+FFFD
  gives the lossy reading, refusing them gives the strict one.
-/

namespace Shakedown.Text.Utf8

/-- The bytes of a text. -/
def encode (s : String) : List UInt8 :=
  s.toUTF8.data.toList

/-- What a lead byte promises: how many bytes follow, the range of the first
of them, and the bits the lead byte itself carries. -/
def lead? (b : Nat) : Option (Nat × Nat × Nat × Nat) :=
  if 0xC2 ≤ b && b ≤ 0xDF then some (1, 0x80, 0xBF, b - 0xC0)
  -- The narrower ranges keep out overlong forms, surrogates and what lies past U+10FFFF.
  else if b == 0xE0 then some (2, 0xA0, 0xBF, 0)
  else if b == 0xED then some (2, 0x80, 0x9F, 0xD)
  else if 0xE1 ≤ b && b ≤ 0xEF then some (2, 0x80, 0xBF, b - 0xE0)
  else if b == 0xF0 then some (3, 0x90, 0xBF, 0)
  else if 0xF1 ≤ b && b ≤ 0xF3 then some (3, 0x80, 0xBF, b - 0xF0)
  else if b == 0xF4 then some (3, 0x80, 0x8F, 4)
  else none

/-- Reads the `need` bytes that a lead byte promised, the first of them between
`lo` and `hi`.  The first byte that does not fit is left unread. -/
def followers : (need lo hi acc : Nat) → List UInt8 → Option Char × List UInt8
  | 0, _, _, acc, bs => (some (Char.ofNat acc), bs)
  | _ + 1, _, _, _, [] => (none, [])
  | n + 1, lo, hi, acc, b :: bs =>
    if lo ≤ b.toNat && b.toNat ≤ hi then followers n 0x80 0xBF (acc * 64 + (b.toNat - 0x80)) bs
    else (none, b :: bs)

/-- The first piece of a sequence that starts with `b`, and what follows it. -/
def piece (b : UInt8) (bs : List UInt8) : Option Char × List UInt8 :=
  if b.toNat < 0x80 then (some (Char.ofNat b.toNat), bs)
  else match lead? b.toNat with
    | some (need, lo, hi, acc) => followers need lo hi acc bs
    | none => (none, bs)

theorem length_followers_le (need lo hi acc : Nat) (bs : List UInt8) :
    (followers need lo hi acc bs).2.length ≤ bs.length := by
  induction need generalizing lo hi acc bs with
  | zero => simp [followers]
  | succ n ih =>
    cases bs with
    | nil => simp [followers]
    | cons b bs =>
      simp only [followers]
      split
      · exact Nat.le_succ_of_le (ih ..)
      · simp

theorem length_piece_le (b : UInt8) (bs : List UInt8) : (piece b bs).2.length ≤ bs.length := by
  unfold piece
  split
  · simp
  · split
    · exact length_followers_le ..
    · simp

/-- The pieces of a byte sequence in order: a character, or `none` for each
maximal ill-formed run. -/
def pieces : List UInt8 → List (Option Char)
  | [] => []
  | b :: bs => (piece b bs).1 :: pieces (piece b bs).2
termination_by bs => bs.length
decreasing_by
  have := length_piece_le b bs
  simp only [List.length_cons]
  omega

/-- The strict reading: nothing for a sequence with an ill-formed run. -/
def decode? (bs : List UInt8) : Option String :=
  ((pieces bs).mapM id).map String.ofList

/-- The lossy reading: U+FFFD for each maximal ill-formed run. -/
def decodeLossy (bs : List UInt8) : List Char :=
  (pieces bs).map (·.getD '\uFFFD')

/-- `decodeLossy` as a string. -/
def lossyText (bs : List UInt8) : String :=
  String.ofList (decodeLossy bs)

@[simp] theorem pieces_nil : pieces [] = [] := by
  simp [pieces]

theorem pieces_cons (b : UInt8) (bs : List UInt8) :
    pieces (b :: bs) = (piece b bs).1 :: pieces (piece b bs).2 := by
  rw [pieces]

@[simp] theorem decodeLossy_nil : decodeLossy [] = [] := by
  simp [decodeLossy]

/-! ## Cutting a text at a character boundary -/

/-- The number of bytes a text takes. -/
def size : List Char → Nat
  | [] => 0
  | c :: cs => c.utf8Size + size cs

/-- Whether the first `n` bytes of a text are whole characters. -/
def isBoundary : List Char → Nat → Bool
  | _, 0 => true
  | [], _ + 1 => false
  | c :: cs, n + 1 => c.utf8Size ≤ n + 1 && isBoundary cs (n + 1 - c.utf8Size)

/-- The last character boundary at or below an offset. -/
def boundaryBelow (cs : List Char) : Nat → Nat
  | 0 => 0
  | n + 1 => if isBoundary cs (n + 1) then n + 1 else boundaryBelow cs n

/-- The characters that lie within the first `n` bytes. -/
def takeBytes : List Char → Nat → List Char
  | [], _ => []
  | c :: cs, n => if c.utf8Size ≤ n then c :: takeBytes cs (n - c.utf8Size) else []

/-- A text cut to at most `limit` bytes, at the last character boundary. -/
def cut (limit : Nat) (cs : List Char) : List Char :=
  if size cs ≤ limit then cs else takeBytes cs (boundaryBelow cs limit)

end Shakedown.Text.Utf8
