/-
  Shakedown.Text.Decimal

  Natural numbers as decimal digits: writing them, and reading the digits of
  a bounded number with an optional sign.
-/

namespace Shakedown.Text.Decimal

/-- The digit of a number below ten. -/
def digit (n : Nat) : Char :=
  Char.ofNat (48 + n)

/-- The digits of a number, most significant first, without leading zeros. -/
def digits (n : Nat) : List Char :=
  if n < 10 then [digit n] else digits (n / 10) ++ [digit (n % 10)]

/-- A number written in decimal. -/
def text (n : Nat) : String :=
  String.ofList (digits n)

/-- A signed number written in decimal. -/
def signedText : Int → String
  | .ofNat n => text n
  | .negSucc n => "-" ++ text (n + 1)

/-- The low `width` decimal digits of a number, padded with zeros. -/
def padded : (width : Nat) → Nat → List Char
  | 0, _ => []
  | w + 1, n => padded w (n / 10) ++ [digit (n % 10)]

/-- Whether a character is one of the ten ASCII digits. -/
def isDigit (c : Char) : Bool :=
  48 ≤ c.toNat && c.toNat ≤ 57

/-- What a digit stands for. -/
def value (c : Char) : Nat :=
  c.toNat - 48

/-- The number that a run of digits stands for, continuing from `acc`. -/
def accumulate (acc : Nat) (cs : List Char) : Nat :=
  cs.foldl (fun n c => n * 10 + value c) acc

/-- Reads one or more digits and nothing else. -/
def read? (cs : List Char) : Option Nat :=
  if cs.isEmpty || !cs.all isDigit then none else some (accumulate 0 cs)

/-- Reads an unsigned number: one `+` may stand in front, leading zeros may
follow, and the value does not exceed `max`. -/
def readUpTo? (max : Nat) (cs : List Char) : Option Nat :=
  let body := match cs with
    | '+' :: rest => rest
    | _ => cs
  (read? body).filter (· ≤ max)

/-- Reads a signed 64-bit number: one `+` or `-` may stand in front. -/
def readInt64? : List Char → Option Int
  | '-' :: rest => ((read? rest).filter (· ≤ Nat.pow 2 63)).map fun n => -(n : Int)
  | '+' :: rest => ((read? rest).filter (· < Nat.pow 2 63)).map fun n => (n : Int)
  | cs => ((read? cs).filter (· < Nat.pow 2 63)).map fun n => (n : Int)

/-! ## Reading what was written -/

theorem isDigit_digit {n : Nat} (h : n < 10) : isDigit (digit n) = true := by
  have : ∀ m : Fin 10, isDigit (digit m) = true := by decide
  exact this ⟨n, h⟩

theorem value_digit {n : Nat} (h : n < 10) : value (digit n) = n := by
  have : ∀ m : Fin 10, value (digit m) = m := by decide
  exact this ⟨n, h⟩

theorem accumulate_append (acc : Nat) (xs ys : List Char) :
    accumulate acc (xs ++ ys) = accumulate (accumulate acc xs) ys := by
  simp [accumulate]

theorem digits_ne_nil (n : Nat) : digits n ≠ [] := by
  unfold digits
  split <;> simp

theorem all_isDigit_digits (n : Nat) : (digits n).all isDigit = true := by
  induction n using Nat.strongRecOn with
  | _ n ih =>
    unfold digits
    split
    · rename_i h
      simp [isDigit_digit h]
    · rename_i h
      have := ih (n / 10) (by omega)
      simp [this, isDigit_digit (Nat.mod_lt n (by decide : 10 > 0))]

theorem accumulate_digits (n : Nat) : accumulate 0 (digits n) = n := by
  induction n using Nat.strongRecOn with
  | _ n ih =>
    unfold digits
    split
    · rename_i h
      simp [accumulate, value_digit h]
    · rename_i h
      rw [accumulate_append, ih (n / 10) (by omega)]
      simp [accumulate, value_digit (Nat.mod_lt n (by decide : 10 > 0))]
      omega

/-- A written number reads back. -/
theorem read?_digits (n : Nat) : read? (digits n) = some n := by
  have h : (digits n).isEmpty = false := by
    simpa using digits_ne_nil n
  simp [read?, h, all_isDigit_digits, accumulate_digits]

end Shakedown.Text.Decimal
