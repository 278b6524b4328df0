/-
  Shakedown.Text.Hex

  Hexadecimal digits: of a number without padding, of a number in a fixed
  width, and of bytes, with the readers that undo them.
-/

namespace Shakedown.Text.Hex

/-- The lower-case digit of a number below sixteen. -/
def digit (n : Nat) : Char :=
  if n < 10 then Char.ofNat (48 + n) else Char.ofNat (87 + n)

/-- The upper-case digit of a number below sixteen. -/
def upperDigit (n : Nat) : Char :=
  if n < 10 then Char.ofNat (48 + n) else Char.ofNat (55 + n)

/-- What a digit of either case stands for. -/
def value? (c : Char) : Option Nat :=
  let n := c.toNat
  if 48 ≤ n && n ≤ 57 then some (n - 48)
  else if 97 ≤ n && n ≤ 102 then some (n - 87)
  else if 65 ≤ n && n ≤ 70 then some (n - 55)
  else none

/-- The digits of a number, without leading zeros. -/
def digits (n : Nat) : List Char :=
  if n < 16 then [digit n] else digits (n / 16) ++ [digit (n % 16)]

/-- The low `width` digits of a number, padded with zeros. -/
def padded : (width : Nat) → Nat → List Char
  | 0, _ => []
  | w + 1, n => padded w (n / 16) ++ [digit (n % 16)]

/-- The number that digits stand for, continuing from `acc`. -/
def accumulate? (acc : Nat) : List Char → Option Nat
  | [] => some acc
  | c :: cs => do accumulate? (acc * 16 + (← value? c)) cs

/-- The bytes that pairs of digits stand for. -/
def bytes? : List Char → Option (List UInt8)
  | [] => some []
  | [_] => none
  | h :: l :: rest => do
    let hi ← value? h
    let lo ← value? l
    return UInt8.ofNat (hi * 16 + lo) :: (← bytes? rest)

/-- The digit pairs of bytes. -/
def ofBytes (bs : List UInt8) : List Char :=
  bs.flatMap fun b => padded 2 b.toNat

/-! ## Reading what was written -/

theorem value?_digit {n : Nat} (h : n < 16) : value? (digit n) = some n := by
  have : ∀ m : Fin 16, value? (digit m) = some m.val := by decide
  exact this ⟨n, h⟩

theorem accumulate?_append (acc : Nat) (xs ys : List Char) :
    accumulate? acc (xs ++ ys) = (accumulate? acc xs).bind (accumulate? · ys) := by
  induction xs generalizing acc with
  | nil => rfl
  | cons x xs ih =>
    simp only [List.cons_append, accumulate?]
    cases value? x <;> simp [ih]

@[simp] theorem length_padded (w n : Nat) : (padded w n).length = w := by
  induction w generalizing n with
  | zero => rfl
  | succ w ih => simp [padded, ih]

/-- Digits of a fixed width read back as the number modulo what fits. -/
theorem accumulate?_padded (acc w n : Nat) :
    accumulate? acc (padded w n) = some (acc * Nat.pow 16 w + n % Nat.pow 16 w) := by
  induction w generalizing n with
  | zero =>
    show some acc = some (acc * 1 + n % 1)
    rw [Nat.mul_one, Nat.mod_one, Nat.add_zero]
  | succ w ih =>
    rw [padded, accumulate?_append, ih]
    have hd : value? (digit (n % 16)) = some (n % 16) := value?_digit (Nat.mod_lt n (by decide))
    simp only [Option.bind_some, accumulate?, hd, Option.bind_eq_bind]
    have hp : Nat.pow 16 (w + 1) = Nat.pow 16 w * 16 := rfl
    have hm : n % Nat.pow 16 (w + 1) = n % 16 + 16 * (n / 16 % Nat.pow 16 w) := by
      rw [hp, Nat.mul_comm, Nat.mod_mul]
    rw [hm, hp, Nat.add_mul, Nat.mul_assoc]
    congr 1
    omega

end Shakedown.Text.Hex
