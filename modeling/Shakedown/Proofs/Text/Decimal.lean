/-
  Shakedown.Proofs.Text.Decimal

  The texts that are read as unsigned numbers: digits with as many zeros in
  front as one likes, and one plus sign before them.  Their value is told by
  the weight of each digit.
-/
import Mathlib.Data.List.Induction
import Mathlib.Data.Nat.Digits.Defs
import Shakedown.Proofs.Text.Blank
import Shakedown.Text.Decimal

namespace Shakedown.Text.Decimal

variable {cs : List Char} {n max : Nat}

/-! ## The grammar -/

/-- Decimal digits, one at least, and the number that they stand for. -/
structure Numeral (cs : List Char) (n : Nat) : Prop where
  nonempty : cs ≠ []
  digits : ∀ c ∈ cs, isDigit c = true
  weights : Nat.ofDigits 10 (cs.reverse.map value) = n

/-- A number without a minus sign. -/
inductive Unsigned : List Char → Nat → Prop where
  | plain {cs : List Char} {n : Nat} (h : Numeral cs n) : Unsigned cs n
  | plus {cs : List Char} {n : Nat} (h : Numeral cs n) : Unsigned ('+' :: cs) n

/-! ## Reading -/

theorem accumulate_eq_ofDigits (cs : List Char) :
    accumulate 0 cs = Nat.ofDigits 10 (cs.reverse.map value) := by
  -- On the end of the text: the last digit is the one of the least weight.
  induction cs using List.reverseRecOn with
  | nil => rfl
  | append_singleton cs c ih =>
    have hlast : accumulate (accumulate 0 cs) [c] = accumulate 0 cs * 10 + value c := rfl
    rw [accumulate_append, hlast, ih, List.reverse_concat, List.map_cons, Nat.ofDigits_cons]
    omega

theorem read?_eq_some_iff : read? cs = some n ↔ Numeral cs n := by
  rw [read?]
  constructor
  · intro h
    split at h
    · exact absurd h (Option.some_ne_none n).symm
    · rename_i hcs
      simp only [Bool.or_eq_true, Bool.not_eq_true', not_or, Bool.not_eq_false,
        List.isEmpty_iff] at hcs
      obtain ⟨hne, hdigits⟩ := hcs
      exact ⟨hne, List.all_eq_true.mp hdigits, by
        rw [← accumulate_eq_ofDigits, Option.some.inj h]⟩
  · rintro ⟨hne, hdigits, rfl⟩
    rw [if_neg, accumulate_eq_ofDigits]
    simpa [hne] using hdigits

/-- A number is read up to a bound from exactly the texts that spell it. -/
theorem readUpTo?_eq_some_iff : readUpTo? max cs = some n ↔ Unsigned cs n ∧ n ≤ max := by
  unfold readUpTo?
  rw [Option.filter_eq_some_iff, read?_eq_some_iff, decide_eq_true_eq]
  refine and_congr_left fun _ => ?_
  constructor
  · intro h
    split at h
    · exact .plus h
    · exact .plain h
  · intro h
    cases h with
    | plus h => exact h
    | plain h =>
      split
      · -- A plus sign is no digit.
        exact absurd (h.digits '+' List.mem_cons_self) (by decide)
      · exact h

/-- A number as it is written spells itself. -/
theorem unsigned_digits (n : Nat) : Unsigned (digits n) n :=
  .plain (read?_eq_some_iff.mp (read?_digits n))

/-! ## Characters -/

theorem Unsigned.mem {c : Char} (h : Unsigned cs n) (hc : c ∈ cs) :
    c = '+' ∨ isDigit c = true := by
  cases h with
  | plain h => exact Or.inr (h.digits c hc)
  | plus h => exact (List.mem_cons.mp hc).imp_right (h.digits c)

theorem isBlank_of_isDigit {c : Char} (h : isDigit c = true) : isBlank c = false := by
  simp only [isDigit, Bool.and_eq_true, decide_eq_true_eq] at h
  exact isBlank_of_solid (by omega)

theorem Unsigned.solid (h : Unsigned cs n) : ∀ c ∈ cs, isBlank c = false := by
  intro c hc
  rcases h.mem hc with rfl | hdigit
  · decide
  · exact isBlank_of_isDigit hdigit

/-! ## Signed numbers -/

theorem not_unsigned_minus : ¬Unsigned ('-' :: cs) n := fun h =>
  (h.mem List.mem_cons_self).elim (by decide) (by decide)

/-- A signed number that is not negative has no minus sign, or is a zero that has one. -/
theorem readInt64?_eq_some_natCast_iff : readInt64? cs = some (n : Int) ↔
    (Unsigned cs n ∧ n < 2 ^ 63) ∨ (n = 0 ∧ ∃ ds, cs = '-' :: ds ∧ Numeral ds 0) := by
  have hsigned : ∀ (p : Nat → Bool) (sign : Int → Int) (ds : List Char),
      Option.map sign (do let m ← (read? ds).filter p; pure (m : Int)) = some (n : Int) ↔
        ∃ m, (Numeral ds m ∧ p m = true) ∧ sign m = n := by
    intro p sign ds
    simp only [← read?_eq_some_iff, ← Option.filter_eq_some_iff]
    cases (read? ds).filter p <;> simp
  unfold readInt64?
  split
  · rename_i ds
    rw [hsigned]
    constructor
    · rintro ⟨m, ⟨hm, -⟩, heq⟩
      obtain ⟨rfl, rfl⟩ : m = 0 ∧ n = 0 := by omega
      exact .inr ⟨rfl, ds, rfl, hm⟩
    · rintro (⟨h, -⟩ | ⟨rfl, _, heq, hm⟩)
      · exact absurd h not_unsigned_minus
      · obtain ⟨-, rfl⟩ := List.cons.inj heq
        exact ⟨0, ⟨hm, by decide⟩, rfl⟩
  · rename_i ds
    rw [hsigned]
    constructor
    · rintro ⟨m, ⟨hm, hlt⟩, heq⟩
      obtain rfl : m = n := by omega
      exact .inl ⟨.plus hm, of_decide_eq_true hlt⟩
    · rintro (⟨h, hlt⟩ | ⟨-, _, heq, -⟩)
      · cases h with
        | plus h => exact ⟨n, ⟨h, decide_eq_true hlt⟩, rfl⟩
        | plain h => exact absurd (h.digits '+' List.mem_cons_self) (by decide)
      · exact absurd (List.cons.inj heq).1 (by decide)
  · rename_i hminus hplus
    rw [hsigned]
    constructor
    · rintro ⟨m, ⟨hm, hlt⟩, heq⟩
      obtain rfl : m = n := by omega
      exact .inl ⟨.plain hm, of_decide_eq_true hlt⟩
    · rintro (⟨h, hlt⟩ | ⟨-, _, heq, -⟩)
      · cases h with
        | plain h => exact ⟨n, ⟨h, decide_eq_true hlt⟩, rfl⟩
        | plus h => exact absurd rfl (hplus _)
      · exact absurd heq (hminus _)

end Shakedown.Text.Decimal
