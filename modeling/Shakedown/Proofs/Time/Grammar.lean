/-
  Shakedown.Proofs.Time.Grammar

  The texts that are read as timestamps, and the moment each tells of.  The
  grammar is that of RFC 3339, with the minus signs of an offset left open:
  RFC 3339 knows the hyphen only, and the reader takes U+2212 as well.  With
  these two signs the reader reads exactly what the grammar says.

  Each part of a timestamp has a lemma that tells the texts it is read from;
  a timestamp is read from front to back, so it is put together from these.
-/
import Mathlib.Algebra.Group.Nat.Defs
import Mathlib.Tactic.SplitIfs
import Shakedown.Proofs.Time.Calendar
import Shakedown.Time.Rfc3339

namespace Shakedown

open Text

/-! ## Digits -/

namespace Text.Decimal

/-- A digit is the digit of what it stands for. -/
theorem digit_value {c : Char} (h : isDigit c = true) : value c < 10 ∧ digit (value c) = c := by
  simp only [isDigit, Bool.and_eq_true, decide_eq_true_eq] at h
  have hcode : 48 + value c = c.toNat := by
    unfold value
    omega
  refine ⟨by omega, ?_⟩
  rw [digit, hcode, Char.ofNat_toNat]

/-- What stands in front of some digits is worth a power of ten each. -/
theorem accumulate_eq (acc : Nat) (cs : List Char) :
    accumulate acc cs = acc * 10 ^ cs.length + accumulate 0 cs := by
  induction cs generalizing acc with
  | nil => exact (Nat.mul_one acc).symm
  | cons c cs ih =>
    have hfront : accumulate acc (c :: cs) = accumulate (acc * 10 + value c) cs := rfl
    have hzero : accumulate 0 (c :: cs) = accumulate (0 * 10 + value c) cs := rfl
    rw [hfront, hzero, ih, ih (0 * 10 + value c), List.length_cons, Nat.pow_succ]
    rw [Nat.zero_mul, Nat.zero_add, Nat.add_mul, Nat.mul_assoc, Nat.mul_comm 10]
    omega

theorem accumulate_lt {cs : List Char} (h : ∀ c ∈ cs, isDigit c = true) :
    accumulate 0 cs < 10 ^ cs.length := by
  induction cs with
  | nil => exact Nat.one_pos
  | cons c cs ih =>
    have hfirst : accumulate 0 (c :: cs) = accumulate (0 * 10 + value c) cs := rfl
    have hvalue : value c < 10 := (digit_value (h c List.mem_cons_self)).1
    have hrest := ih fun d hd => h d (List.mem_cons_of_mem c hd)
    rw [hfirst, accumulate_eq, List.length_cons, Nat.pow_succ, Nat.zero_mul, Nat.zero_add]
    have hle : value c * 10 ^ cs.length ≤ 9 * 10 ^ cs.length :=
      Nat.mul_le_mul_right _ (by omega)
    omega

end Text.Decimal

namespace Time

/-- The month of a date and its day in the month have two digits at most. -/
theorem Date.le_of_valid {date : Date} (h : date.valid = true) :
    date.month ≤ 12 ∧ date.day ≤ 31 := by
  simp only [valid, Bool.and_eq_true, decide_eq_true_eq] at h
  have hlast : daysIn date.year date.month ≤ 31 := by
    unfold daysIn
    split_ifs <;> omega
  omega

namespace Rfc3339

variable {α : Type}

/-! ## Numbers of a fixed width -/

/-- Digits are read in two goes as in one. -/
theorem number?_add (a b acc : Nat) (cs : List Char) :
    number? (a + b) acc cs = (number? a acc cs).bind fun x => number? b x.1 x.2 := by
  induction a generalizing acc cs with
  | zero => rw [Nat.zero_add, number?, Option.bind_some]
  | succ a ih =>
    rw [Nat.succ_add]
    cases cs with
    | nil => rfl
    | cons c cs =>
      rw [number?, number?]
      split
      · exact ih _ cs
      · rfl

theorem number?_digit {n : Nat} (h : n < 10) (acc : Nat) (rest : List Char) :
    number? 1 acc (Decimal.digit n :: rest) = some (acc * 10 + n, rest) := by
  rw [number?, if_pos (Decimal.isDigit_digit h), Decimal.value_digit h, number?]

theorem pow_ten_succ (w : Nat) : Nat.pow 10 (w + 1) = 10 * Nat.pow 10 w :=
  Nat.mul_comm (Nat.pow 10 w) 10

/-- Digits of a fixed width are read as the number modulo what fits. -/
theorem number?_padded_append (w acc n : Nat) (rest : List Char) :
    number? w acc (Decimal.padded w n ++ rest) =
      some (acc * Nat.pow 10 w + n % Nat.pow 10 w, rest) := by
  -- On the width: the last digit is read after those of a tenth.
  induction w generalizing n rest with
  | zero =>
    show some (acc, rest) = some (acc * 1 + n % 1, rest)
    rw [Nat.mul_one, Nat.mod_one, Nat.add_zero]
  | succ w ih =>
    rw [Decimal.padded, List.append_assoc, number?_add, ih, Option.bind_some,
      List.singleton_append, number?_digit (Nat.mod_lt n (by decide)), pow_ten_succ, Nat.mod_mul]
    refine congrArg (fun v => some (v, rest)) ?_
    rw [Nat.add_mul, Nat.mul_assoc, Nat.mul_comm (Nat.pow 10 w) 10]
    omega

theorem number?_padded {w n : Nat} (h : n < Nat.pow 10 w) (rest : List Char) :
    number? w 0 (Decimal.padded w n ++ rest) = some (n, rest) := by
  rw [number?_padded_append, Nat.zero_mul, Nat.zero_add, Nat.mod_eq_of_lt h]

theorem all_isDigit_padded (w n : Nat) : ∀ c ∈ Decimal.padded w n, Decimal.isDigit c = true := by
  induction w generalizing n with
  | zero => exact nofun
  | succ w ih =>
    intro c hc
    rcases List.mem_append.mp hc with hc | hc
    · exact ih (n / 10) c hc
    · obtain rfl := List.mem_singleton.mp hc
      exact Decimal.isDigit_digit (Nat.mod_lt n (by decide))

theorem length_padded (w n : Nat) : (Decimal.padded w n).length = w := by
  induction w generalizing n with
  | zero => rfl
  | succ w ih => rw [Decimal.padded, List.length_append, ih, List.length_singleton]

theorem padded_ne_nil (w n : Nat) : Decimal.padded (w + 1) n ≠ [] := by
  rw [Decimal.padded]
  exact List.concat_ne_nil _ _

theorem accumulate_padded (w n : Nat) :
    Decimal.accumulate 0 (Decimal.padded w n) = n % Nat.pow 10 w := by
  induction w generalizing n with
  | zero => exact (Nat.mod_one n).symm
  | succ w ih =>
    rw [Decimal.padded, Decimal.accumulate_append, ih, pow_ten_succ, Nat.mod_mul]
    show _ * 10 + Decimal.value (Decimal.digit (n % 10)) = _
    rw [Decimal.value_digit (Nat.mod_lt n (by decide))]
    omega

/-! ## The grammar -/

/-- A fraction of a second and the whole nanoseconds in it. -/
inductive Fraction : List Char → Nat → Prop where
  | none : Fraction [] 0
  | digits {digits : List Char} (hne : digits ≠ [])
      (hdigits : ∀ c ∈ digits, Decimal.isDigit c = true) :
      Fraction ('.' :: digits) (Decimal.accumulate 0 digits * 10 ^ 9 / 10 ^ digits.length)

/-- An offset from UTC and its minutes, with some characters as its minus sign. -/
inductive Offset (minus : Char → Prop) : List Char → Int → Prop where
  | utc {c : Char} (hc : c = 'Z' ∨ c = 'z') : Offset minus [c] 0
  | ahead {hours minutes : Nat} (hhours : hours ≤ 23) (hminutes : minutes ≤ 59) :
      Offset minus ('+' :: (Decimal.padded 2 hours ++ ':' :: Decimal.padded 2 minutes))
        (hours * 60 + minutes : Nat)
  | behind {c : Char} {hours minutes : Nat} (hc : minus c) (hhours : hours ≤ 23)
      (hminutes : minutes ≤ 59) :
      Offset minus (c :: (Decimal.padded 2 hours ++ ':' :: Decimal.padded 2 minutes))
        (-(hours * 60 + minutes : Nat))

/-- A timestamp and the moment of UTC it tells of: a date on the calendar and a time of day,
less the offset.  Second 60 is the second before it, gone on for longer. -/
inductive Tells (minus : Char → Prop) : List Char → Moment → Prop where
  | mk {year month day hour minute second nanos : Nat} {separator : Char}
      {fraction zone : List Char} {offset : Int} (hyear : year ≤ 9999)
      (hdate : (⟨year, month, day⟩ : Date).valid = true)
      (hseparator : separator = 'T' ∨ separator = 't' ∨ separator = ' ')
      (hhour : hour ≤ 23) (hminute : minute ≤ 59) (hsecond : second ≤ 60)
      (hfraction : Fraction fraction nanos) (hzone : Offset minus zone offset) :
      Tells minus
        (Decimal.padded 4 year ++ '-' :: (Decimal.padded 2 month ++ '-' ::
          (Decimal.padded 2 day ++ separator :: (Decimal.padded 2 hour ++ ':' ::
            (Decimal.padded 2 minute ++ ':' :: (Decimal.padded 2 second ++
              (fraction ++ zone)))))))
        { seconds := (⟨year, month, day⟩ : Date).toDays * 86400 +
            (hour * 3600 + minute * 60 + (if second = 60 then 59 else second) : Nat) -
            offset * 60
          nanos := nanos + (if second = 60 then 1000000000 else 0) }

/-- The minus sign of RFC 3339. -/
def IsHyphen (c : Char) : Prop :=
  c = '-'

/-- The minus signs that are read. -/
def IsMinus (c : Char) : Prop :=
  c = '-' ∨ c = '\u2212'

/-! ## Characters -/

theorem toNat_lt_of_padded {w n : Nat} : ∀ c ∈ Decimal.padded w n, c.toNat < 128 := by
  intro c hc
  have hdigit := all_isDigit_padded w n c hc
  simp only [Decimal.isDigit, Bool.and_eq_true, decide_eq_true_eq] at hdigit
  omega

/-- All characters of a timestamp are ASCII, but for the minus sign. -/
theorem Tells.toNat_lt {minus : Char → Prop} {cs : List Char} {m : Moment}
    (h : Tells minus cs m) : ∀ c ∈ cs, c.toNat < 128 ∨ minus c := by
  have hnumber : ∀ {w n : Nat}, ∀ c ∈ Decimal.padded w n, c.toNat < 128 ∨ minus c :=
    fun c hc => Or.inl (toNat_lt_of_padded c hc)
  cases h with
  | @mk year month day hour minute second nanos separator fraction zone offset _ _ hseparator
      _ _ _ hfraction hzone =>
    have hsep : separator.toNat < 128 := by
      rcases hseparator with rfl | rfl | rfl <;> decide
    have hfrac : ∀ c ∈ fraction, c.toNat < 128 ∨ minus c := by
      cases hfraction with
      | none => exact nofun
      | digits _ hdigits =>
        refine List.forall_mem_cons.mpr ⟨Or.inl (by decide), fun c hc => Or.inl ?_⟩
        have hdigit := hdigits c hc
        simp only [Decimal.isDigit, Bool.and_eq_true, decide_eq_true_eq] at hdigit
        omega
    have hoffset : ∀ c ∈ zone, c.toNat < 128 ∨ minus c := by
      cases hzone with
      | utc hc =>
        refine List.forall_mem_singleton.mpr (Or.inl ?_)
        rcases hc with rfl | rfl <;> decide
      | ahead _ _ =>
        refine List.forall_mem_cons.mpr ⟨Or.inl (by decide), ?_⟩
        exact List.forall_mem_append.mpr
          ⟨hnumber, List.forall_mem_cons.mpr ⟨Or.inl (by decide), hnumber⟩⟩
      | behind hc _ _ =>
        refine List.forall_mem_cons.mpr ⟨Or.inr hc, ?_⟩
        exact List.forall_mem_append.mpr
          ⟨hnumber, List.forall_mem_cons.mpr ⟨Or.inl (by decide), hnumber⟩⟩
    simp only [List.forall_mem_append, List.forall_mem_cons]
    exact ⟨hnumber, Or.inl (by decide), hnumber, Or.inl (by decide), hnumber, Or.inl hsep,
      hnumber, Or.inl (by decide), hnumber, Or.inl (by decide), hnumber, hfrac, hoffset⟩

/-! ## Reading the parts -/

/-- Digits that are read are those of a number of their width. -/
theorem number?_eq_some {w acc n : Nat} {cs rest : List Char}
    (h : number? w acc cs = some (n, rest)) :
    ∃ v, v < 10 ^ w ∧ n = acc * 10 ^ w + v ∧ cs = Decimal.padded w v ++ rest := by
  -- On the width: the last digit is read after the others.
  induction w generalizing n rest with
  | zero =>
    obtain ⟨rfl, rfl⟩ := Prod.mk.inj (Option.some.inj h)
    exact ⟨0, Nat.one_pos, (Nat.mul_one acc).symm, rfl⟩
  | succ w ih =>
    rw [number?_add] at h
    obtain ⟨⟨front, mid⟩, hfront, hlast⟩ := Option.bind_eq_some_iff.mp h
    obtain ⟨v, hv, rfl, rfl⟩ := ih hfront
    cases mid with
    | nil => exact nomatch hlast
    | cons c mid =>
      dsimp only at hlast
      rw [number?] at hlast
      split at hlast
      · rename_i hc
        obtain ⟨rfl, rfl⟩ := Prod.mk.inj (Option.some.inj hlast)
        obtain ⟨hvalue, hdigit⟩ := Decimal.digit_value hc
        refine ⟨v * 10 + Decimal.value c, ?_, ?_, ?_⟩
        · rw [Nat.pow_succ]
          omega
        · rw [Nat.pow_succ, Nat.add_mul, Nat.mul_assoc]
          omega
        · have htenth : (v * 10 + Decimal.value c) / 10 = v := by omega
          have hrest : (v * 10 + Decimal.value c) % 10 = Decimal.value c := by omega
          rw [Decimal.padded, htenth, hrest, hdigit, List.append_assoc, List.singleton_append]
      · exact nomatch hlast

theorem number?_eq_some_iff {w n : Nat} {cs rest : List Char} :
    number? w 0 cs = some (n, rest) ↔ n < 10 ^ w ∧ cs = Decimal.padded w n ++ rest := by
  constructor
  · intro h
    obtain ⟨v, hv, rfl, hcs⟩ := number?_eq_some h
    rw [Nat.zero_mul, Nat.zero_add]
    exact ⟨hv, hcs⟩
  · rintro ⟨hn, rfl⟩
    exact number?_padded hn rest

theorem char?_cons (c : Char) (cs : List Char) : char? c (c :: cs) = some cs :=
  if_pos rfl

theorem char?_eq_some_iff {expected : Char} {cs rest : List Char} :
    char? expected cs = some rest ↔ cs = expected :: rest := by
  constructor
  · intro h
    cases cs with
    | nil => exact nomatch h
    | cons c cs =>
      rw [char?] at h
      split at h
      · rename_i hc
        rw [hc, Option.some.inj h]
      · exact nomatch h
  · rintro rfl
    exact char?_cons expected rest

/-- What goes on from a number was read behind its digits. -/
theorem exists_of_bind_number? {w : Nat} {cs : List Char} {next : Nat × List Char → Option α}
    {a : α} (h : (number? w 0 cs).bind next = some a) :
    ∃ n rest, n < 10 ^ w ∧ cs = Decimal.padded w n ++ rest ∧ next (n, rest) = some a := by
  obtain ⟨⟨n, rest⟩, hread, hnext⟩ := Option.bind_eq_some_iff.mp h
  obtain ⟨hn, hcs⟩ := number?_eq_some_iff.mp hread
  exact ⟨n, rest, hn, hcs, hnext⟩

/-- What goes on from a given character was read behind it. -/
theorem exists_of_bind_char? {expected : Char} {cs : List Char} {next : List Char → Option α}
    {a : α} (h : (char? expected cs).bind next = some a) :
    ∃ rest, cs = expected :: rest ∧ next rest = some a := by
  obtain ⟨rest, hread, hnext⟩ := Option.bind_eq_some_iff.mp h
  exact ⟨rest, char?_eq_some_iff.mp hread, hnext⟩

theorem separator?_eq_some_iff {cs rest : List Char} :
    separator? cs = some rest ↔ ∃ c, (c = 'T' ∨ c = 't' ∨ c = ' ') ∧ cs = c :: rest := by
  constructor
  · intro h
    cases cs with
    | nil => exact nomatch h
    | cons c cs =>
      rw [separator?] at h
      split at h
      · rename_i hc
        simp only [Bool.or_eq_true, decide_eq_true_eq, or_assoc] at hc
        exact ⟨c, hc, by rw [Option.some.inj h]⟩
      · exact nomatch h
  · rintro ⟨c, hc, rfl⟩
    rcases hc with rfl | rfl | rfl <;> rfl

/-- Of the digits of a fraction only the first nine count. -/
theorem nanos_of_digits {digits : List Char} (h : ∀ c ∈ digits, Decimal.isDigit c = true) :
    Decimal.accumulate 0 (digits.take 9) * 10 ^ (9 - (digits.take 9).length) =
      Decimal.accumulate 0 digits * 10 ^ 9 / 10 ^ digits.length := by
  by_cases hlen : digits.length ≤ 9
  · have hsplit : (10 : Nat) ^ 9 = 10 ^ (9 - digits.length) * 10 ^ digits.length := by
      rw [← Nat.pow_add, Nat.sub_add_cancel hlen]
    rw [List.take_of_length_le hlen, hsplit, ← Nat.mul_assoc,
      Nat.mul_div_cancel _ (Nat.pow_pos (by decide))]
  · -- The rest is less than one in the last place that counts.
    have hkept : (digits.take 9).length = 9 := by
      rw [List.length_take]
      omega
    have hsplit : Decimal.accumulate 0 digits =
        Decimal.accumulate 0 (digits.take 9) * 10 ^ (digits.drop 9).length +
          Decimal.accumulate 0 (digits.drop 9) := by
      rw [← Decimal.accumulate_eq, ← Decimal.accumulate_append, List.take_append_drop]
    have hdropped : Decimal.accumulate 0 (digits.drop 9) < 10 ^ (digits.drop 9).length :=
      Decimal.accumulate_lt fun c hc => h c (List.mem_of_mem_drop hc)
    have hlength : digits.length = (digits.drop 9).length + 9 := by
      rw [List.length_drop]
      omega
    have hpos : 0 < 10 ^ (digits.drop 9).length := Nat.pow_pos (by decide)
    rw [hkept, Nat.sub_self, Nat.pow_zero, Nat.mul_one, hlength, Nat.pow_add,
      Nat.mul_div_mul_right _ _ (Nat.pow_pos (by decide)), hsplit, Nat.mul_comm,
      Nat.mul_add_div hpos, Nat.div_eq_of_lt hdropped, Nat.add_zero]

/-- What does not go on a fraction: neither a point nor a digit. -/
def Closes (cs : List Char) : Prop :=
  ∀ c rest, cs = c :: rest → c ≠ '.' ∧ Decimal.isDigit c = false

theorem fraction?_eq_some {n : Nat} {cs rest : List Char} (h : fraction? cs = some (n, rest)) :
    ∃ fraction, Fraction fraction n ∧ cs = fraction ++ rest := by
  unfold fraction? at h
  split at h
  · rename_i cs
    dsimp only at h
    split at h
    · exact nomatch h
    · rename_i hkept
      obtain ⟨rfl, rfl⟩ := Prod.mk.inj (Option.some.inj h)
      have hdigits : ∀ c ∈ cs.takeWhile Decimal.isDigit, Decimal.isDigit c = true :=
        List.all_eq_true.mp List.all_takeWhile
      have hne : cs.takeWhile Decimal.isDigit ≠ [] := by
        intro hnil
        rw [hnil] at hkept
        exact hkept rfl
      refine ⟨'.' :: cs.takeWhile Decimal.isDigit, ?_, ?_⟩
      · show Fraction _ (_ * 10 ^ _)
        rw [nanos_of_digits hdigits]
        exact .digits hne hdigits
      · rw [List.cons_append, List.takeWhile_append_dropWhile]
  · obtain ⟨rfl, rfl⟩ := Prod.mk.inj (Option.some.inj h)
    exact ⟨[], .none, rfl⟩

theorem fraction?_append {n : Nat} {fraction rest : List Char} (h : Fraction fraction n)
    (hrest : Closes rest) : fraction? (fraction ++ rest) = some (n, rest) := by
  cases h with
  | none =>
    rw [List.nil_append]
    unfold fraction?
    split
    · exact absurd rfl (hrest _ _ rfl).1
    · rfl
  | @digits digits hne hdigits =>
    have hstop : rest.takeWhile Decimal.isDigit = [] ∧ rest.dropWhile Decimal.isDigit = rest := by
      cases rest with
      | nil => exact ⟨rfl, rfl⟩
      | cons c rest =>
        have hc := (hrest c rest rfl).2
        exact ⟨List.takeWhile_cons_of_neg (by rw [hc]; decide),
          List.dropWhile_cons_of_neg (by rw [hc]; decide)⟩
    have htake : (digits ++ rest).takeWhile Decimal.isDigit = digits := by
      rw [List.takeWhile_append_of_pos hdigits, hstop.1, List.append_nil]
    have hdrop : (digits ++ rest).dropWhile Decimal.isDigit = rest := by
      rw [List.dropWhile_append_of_pos hdigits, hstop.2]
    have hkept : (digits.take 9).isEmpty = false := by
      simpa using hne
    rw [List.cons_append, fraction?, htake, hdrop, hkept]
    exact congrArg (fun nanos => some (nanos, rest)) (nanos_of_digits hdigits)

theorem offsetMinutes?_eq_some_iff {minutes : Nat} {cs rest : List Char} :
    offsetMinutes? cs = some (minutes, rest) ↔ ∃ h m, h ≤ 23 ∧ m ≤ 59 ∧ minutes = h * 60 + m ∧
      cs = Decimal.padded 2 h ++ ':' :: (Decimal.padded 2 m ++ rest) := by
  constructor
  · intro hread
    obtain ⟨h, _, -, rfl, hread₁⟩ := exists_of_bind_number? hread
    obtain ⟨_, rfl, hread₂⟩ := exists_of_bind_char? hread₁
    obtain ⟨m, _, -, rfl, hread₃⟩ := exists_of_bind_number? hread₂
    dsimp only at hread₃
    split at hread₃
    · rename_i hinside
      simp only [Bool.and_eq_true, decide_eq_true_eq] at hinside
      obtain ⟨rfl, rfl⟩ := Prod.mk.inj (Option.some.inj hread₃)
      exact ⟨h, m, hinside.1, hinside.2, rfl, rfl⟩
    · exact nomatch hread₃
  · rintro ⟨h, m, hh, hm, rfl, rfl⟩
    have hh' : h < 100 := by omega
    have hm' : m < 100 := by omega
    refine Option.bind_eq_some_iff.mpr ⟨_, number?_padded (w := 2) hh' _, ?_⟩
    refine Option.bind_eq_some_iff.mpr ⟨_, char?_cons ':' _, ?_⟩
    refine Option.bind_eq_some_iff.mpr ⟨_, number?_padded (w := 2) hm' _, ?_⟩
    dsimp only
    rw [decide_eq_true hh, decide_eq_true hm]
    rfl

theorem offset?_eq_some_iff {offset : Int} {cs rest : List Char} :
    offset? cs = some (offset, rest) ↔ ∃ zone, Offset IsMinus zone offset ∧ cs = zone ++ rest := by
  constructor
  · intro h
    cases cs with
    | nil => exact nomatch h
    | cons c cs =>
      rw [offset?] at h
      split at h
      · rename_i hc
        simp only [Bool.or_eq_true, decide_eq_true_eq] at hc
        obtain ⟨rfl, rfl⟩ := Prod.mk.inj (Option.some.inj h)
        exact ⟨[c], .utc hc, rfl⟩
      split at h
      · rename_i hc
        obtain ⟨⟨minutes, rest'⟩, hread, heq⟩ := Option.map_eq_some_iff.mp h
        obtain ⟨rfl, rfl⟩ := Prod.mk.inj heq
        obtain ⟨hours, m, hhours, hm, rfl, rfl⟩ := offsetMinutes?_eq_some_iff.mp hread
        refine ⟨_, .ahead hhours hm, ?_⟩
        rw [hc, List.cons_append, List.append_assoc, List.cons_append]
      split at h
      · rename_i hc
        simp only [Bool.or_eq_true, decide_eq_true_eq] at hc
        obtain ⟨⟨minutes, rest'⟩, hread, heq⟩ := Option.map_eq_some_iff.mp h
        obtain ⟨rfl, rfl⟩ := Prod.mk.inj heq
        obtain ⟨hours, m, hhours, hm, rfl, rfl⟩ := offsetMinutes?_eq_some_iff.mp hread
        refine ⟨_, .behind hc hhours hm, ?_⟩
        rw [List.cons_append, List.append_assoc, List.cons_append]
      · exact nomatch h
  · rintro ⟨zone, hzone, rfl⟩
    cases hzone with
    | utc hc => rcases hc with rfl | rfl <;> rfl
    | @ahead hours m hhours hm =>
      have hread : offsetMinutes? (Decimal.padded 2 hours ++ ':' :: (Decimal.padded 2 m ++ rest)) =
          some (hours * 60 + m, rest) :=
        offsetMinutes?_eq_some_iff.mpr ⟨hours, m, hhours, hm, rfl, rfl⟩
      rw [List.cons_append, List.append_assoc, List.cons_append, offset?, if_neg (by decide),
        if_pos rfl, hread]
      rfl
    | @behind c hours m hc hhours hm =>
      have hread : offsetMinutes? (Decimal.padded 2 hours ++ ':' :: (Decimal.padded 2 m ++ rest)) =
          some (hours * 60 + m, rest) :=
        offsetMinutes?_eq_some_iff.mpr ⟨hours, m, hhours, hm, rfl, rfl⟩
      rw [List.cons_append, List.append_assoc, List.cons_append, offset?]
      rcases hc with rfl | rfl
      · rw [if_neg (by decide), if_neg (by decide), if_pos (by decide), hread]
        rfl
      · rw [if_neg (by decide), if_neg (by decide), if_pos (by decide), hread]
        rfl

/-- A fraction ends where an offset begins. -/
theorem Offset.closes {zone : List Char} {offset : Int} (h : Offset IsMinus zone offset) :
    Closes zone := by
  intro c rest heq
  cases h with
  | utc hc =>
    obtain ⟨rfl, -⟩ := List.cons.inj heq
    rcases hc with rfl | rfl <;> decide
  | ahead _ _ =>
    obtain ⟨rfl, -⟩ := List.cons.inj heq
    decide
  | behind hc _ _ =>
    obtain ⟨rfl, -⟩ := List.cons.inj heq
    rcases hc with rfl | rfl <;> decide

/-! ## Reading timestamps -/

/-- What the grammar says is read. -/
theorem Tells.readChars? {cs : List Char} {m : Moment} (h : Tells IsMinus cs m) :
    readChars? cs = some m := by
  cases h with
  | @mk year month day hour minute second nanos separator fraction zone offset hyear hdate
      hseparator hhour hminute hsecond hfraction hzone =>
    obtain ⟨hmonth, hday⟩ := Date.le_of_valid hdate
    dsimp only at hmonth hday
    have hyear' : year < 10000 := by omega
    have hmonth' : month < 100 := by omega
    have hday' : day < 100 := by omega
    have hhour' : hour < 100 := by omega
    have hminute' : minute < 100 := by omega
    have hsecond' : second < 100 := by omega
    have hzone' : offset? zone = some (offset, []) :=
      offset?_eq_some_iff.mpr ⟨zone, hzone, (List.append_nil zone).symm⟩
    have hinside : (([] : List Char).isEmpty && (⟨year, month, day⟩ : Date).valid &&
        decide (hour ≤ 23) && decide (minute ≤ 59) && decide (second ≤ 60)) = true := by
      rw [hdate, decide_eq_true hhour, decide_eq_true hminute, decide_eq_true hsecond]
      rfl
    -- Each part is read in its turn, and the rest goes on to the next.
    refine Option.bind_eq_some_iff.mpr ⟨_, number?_padded (w := 4) hyear' _, ?_⟩
    refine Option.bind_eq_some_iff.mpr ⟨_, char?_cons '-' _, ?_⟩
    refine Option.bind_eq_some_iff.mpr ⟨_, number?_padded (w := 2) hmonth' _, ?_⟩
    refine Option.bind_eq_some_iff.mpr ⟨_, char?_cons '-' _, ?_⟩
    refine Option.bind_eq_some_iff.mpr ⟨_, number?_padded (w := 2) hday' _, ?_⟩
    refine Option.bind_eq_some_iff.mpr
      ⟨_, separator?_eq_some_iff.mpr ⟨separator, hseparator, rfl⟩, ?_⟩
    refine Option.bind_eq_some_iff.mpr ⟨_, number?_padded (w := 2) hhour' _, ?_⟩
    refine Option.bind_eq_some_iff.mpr ⟨_, char?_cons ':' _, ?_⟩
    refine Option.bind_eq_some_iff.mpr ⟨_, number?_padded (w := 2) hminute' _, ?_⟩
    refine Option.bind_eq_some_iff.mpr ⟨_, char?_cons ':' _, ?_⟩
    refine Option.bind_eq_some_iff.mpr ⟨_, number?_padded (w := 2) hsecond' _, ?_⟩
    refine Option.bind_eq_some_iff.mpr ⟨_, fraction?_append hfraction hzone.closes, ?_⟩
    refine Option.bind_eq_some_iff.mpr ⟨_, hzone', ?_⟩
    refine (if_pos hinside).trans ?_
    by_cases hleap : second = 60
    · simp [hleap]
    · simp [hleap]

/-- What is read is what the grammar says. -/
theorem tells_of_readChars? {cs : List Char} {m : Moment} (h : readChars? cs = some m) :
    Tells IsMinus cs m := by
  -- From the front to the back, each part tells what the text before it was.
  obtain ⟨year, _, hyear, rfl, h₁⟩ := exists_of_bind_number? h
  obtain ⟨_, rfl, h₂⟩ := exists_of_bind_char? h₁
  obtain ⟨month, _, -, rfl, h₃⟩ := exists_of_bind_number? h₂
  obtain ⟨_, rfl, h₄⟩ := exists_of_bind_char? h₃
  obtain ⟨day, _, -, rfl, h₅⟩ := exists_of_bind_number? h₄
  obtain ⟨_, hsep, h₆⟩ := Option.bind_eq_some_iff.mp h₅
  obtain ⟨separator, hseparator, rfl⟩ := separator?_eq_some_iff.mp hsep
  obtain ⟨hour, _, -, rfl, h₇⟩ := exists_of_bind_number? h₆
  obtain ⟨_, rfl, h₈⟩ := exists_of_bind_char? h₇
  obtain ⟨minute, _, -, rfl, h₉⟩ := exists_of_bind_number? h₈
  obtain ⟨_, rfl, h₁₀⟩ := exists_of_bind_char? h₉
  obtain ⟨second, _, -, rfl, h₁₁⟩ := exists_of_bind_number? h₁₀
  obtain ⟨⟨nanos, _⟩, hnanos, h₁₂⟩ := Option.bind_eq_some_iff.mp h₁₁
  obtain ⟨fraction, hfraction, rfl⟩ := fraction?_eq_some hnanos
  obtain ⟨⟨offset, _⟩, hoffset, h₁₃⟩ := Option.bind_eq_some_iff.mp h₁₂
  obtain ⟨zone, hzone, rfl⟩ := offset?_eq_some_iff.mp hoffset
  dsimp only at h₁₃
  split at h₁₃
  · rename_i hinside
    simp only [Bool.and_eq_true, decide_eq_true_eq, List.isEmpty_iff] at hinside
    obtain ⟨⟨⟨⟨rfl, hdate⟩, hhour⟩, hminute⟩, hsecond⟩ := hinside
    have hyear' : year ≤ 9999 := by omega
    have hform : Tells IsMinus _ _ := .mk hyear' hdate hseparator hhour hminute hsecond
      hfraction hzone
    obtain rfl := Option.some.inj h₁₃
    rw [List.append_nil]
    by_cases hleap : second = 60
    · simpa [hleap] using hform
    · simpa [hleap] using hform
  · exact nomatch h₁₃

/-- A text is read as a moment exactly if the grammar says that it tells of it. -/
theorem read?_eq_some_iff {s : String} {m : Moment} :
    read? s = some m ↔ Tells IsMinus s.toList m :=
  ⟨tells_of_readChars?, Tells.readChars?⟩

end Rfc3339

end Time

end Shakedown
