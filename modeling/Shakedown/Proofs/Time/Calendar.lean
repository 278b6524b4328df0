/-
  Shakedown.Proofs.Time.Calendar

  The date of a day is on the calendar, and it is the date of that day only:
  counting the days up to it gives the day back.
-/
import Shakedown.Time.Calendar

namespace Shakedown.Time

/-! ## Years of a span -/

/-- A day of a span by its century, its four years, the year of those and the day of that
year.  Only the last year of four is long, and the last of a century only in the last one. -/
theorem yearOfSpan_split {day : Nat} (h : day < 146097) :
    ∃ century four year rest, yearOfSpan day = (century * 100 + four * 4 + year, rest) ∧
      day = century * 36524 + four * 1461 + year * 365 + rest ∧
      century ≤ 3 ∧ four ≤ 24 ∧ year ≤ 3 ∧ rest ≤ 365 ∧
      (rest = 365 → year = 3 ∧ (four = 24 → century = 3)) := by
  refine ⟨_, _, _, _, rfl, ?_⟩
  omega

/-- The day of the year and the days of the years before it make up the day. -/
theorem yearOfSpan_days {day : Nat} (h : day < 146097) :
    (yearOfSpan day).1 < 400 ∧ (yearOfSpan day).2 < 366 ∧
      (yearOfSpan day).1 * 365 + (yearOfSpan day).1 / 4 - (yearOfSpan day).1 / 100 +
        (yearOfSpan day).2 = day := by
  obtain ⟨century, four, year, rest, hyear, hday, hcentury, hfour, hyears, hrest, -⟩ :=
    yearOfSpan_split h
  have hfours : (century * 100 + four * 4 + year) / 4 = century * 25 + four := by omega
  have hcenturies : (century * 100 + four * 4 + year) / 100 = century := by omega
  rw [hyear]
  dsimp only
  rw [hfours, hcenturies]
  omega

/-- A year has a 366th day only if the February at its end is that of a leap year. -/
theorem isLeap_of_long {day : Nat} (h : day < 146097) (hlong : (yearOfSpan day).2 = 365)
    (era : Int) : isLeap (era * 400 + (yearOfSpan day).1 + 1) = true := by
  obtain ⟨century, four, year, rest, hyear, -, hcentury, hfour, -, -, hrest⟩ :=
    yearOfSpan_split h
  rw [hyear] at hlong ⊢
  obtain ⟨rfl, hlast⟩ := hrest hlong
  simp only [isLeap, Bool.and_eq_true, Bool.or_eq_true, beq_iff_eq, bne_iff_ne]
  omega

/-! ## Days of a year -/

/-- The month of a day of the year, counted from March. -/
def marchOf (dayOfYear : Nat) : Nat :=
  (5 * dayOfYear + 2) / 153

/-- The month of the calendar. -/
def monthOf (march : Nat) : Nat :=
  if march < 10 then march + 3 else march - 9

/-- A day of the year lies in its month; past the 28th of February only the last day of
a long year does. -/
theorem day_of_march : ∀ d : Fin 366,
    marchOf d < 12 ∧ daysBefore (marchOf d) ≤ d.val ∧
      (monthOf (marchOf d) ≠ 2 →
        d.val - daysBefore (marchOf d) + 1 ≤ daysIn 0 (monthOf (marchOf d))) ∧
      (monthOf (marchOf d) = 2 →
        d.val - daysBefore (marchOf d) + 1 ≤ 28 ∨
          d.val - daysBefore (marchOf d) + 1 = 29 ∧ d.val = 365) := by
  -- There are few enough days in a year to try them all.
  decide +kernel

theorem daysIn_of_ne {month : Nat} (h : month ≠ 2) (year : Int) :
    daysIn year month = daysIn 0 month := by
  simp only [daysIn, beq_eq_false_iff_ne.mpr h, Bool.false_eq_true, if_false]

/-! ## Dates -/

namespace Date

/-- A date and the parts it is put together from: the span of 400 years, the year in
it and the day of that year, both counted from March. -/
theorem ofDays_parts (days : Int) :
    ∃ (era : Int) (year day : Nat), year < 400 ∧ day < 366 ∧
      days + epochOffset = era * 146097 + (year * 365 + year / 4 - year / 100 + day : Nat) ∧
      (day = 365 → isLeap (era * 400 + year + 1) = true) ∧
      ofDays days =
        ⟨if monthOf (marchOf day) ≤ 2 then era * 400 + year + 1 else era * 400 + year,
          monthOf (marchOf day), day - daysBefore (marchOf day) + 1⟩ := by
  have hlt : ((days + epochOffset) % 146097).toNat < 146097 := by omega
  obtain ⟨hyear, hday, hsplit⟩ := yearOfSpan_days hlt
  refine ⟨(days + epochOffset) / 146097, _, _, hyear, hday, ?_,
    fun hlong => isLeap_of_long hlt hlong _, rfl⟩
  rw [hsplit]
  omega

/-- The date of a day is on the calendar. -/
theorem valid_ofDays (days : Int) : (ofDays days).valid = true := by
  obtain ⟨era, year, day, -, hday, -, hlong, hdate⟩ := ofDays_parts days
  obtain ⟨hmarch, -, hother, hfebruary⟩ := day_of_march ⟨day, hday⟩
  dsimp only at hmarch hother hfebruary
  have hmonth : 1 ≤ monthOf (marchOf day) ∧ monthOf (marchOf day) ≤ 12 := by
    unfold monthOf
    split <;> omega
  rw [hdate]
  simp only [valid, Bool.and_eq_true, decide_eq_true_eq]
  refine ⟨⟨⟨hmonth.1, hmonth.2⟩, Nat.le_add_left 1 _⟩, ?_⟩
  -- Only the length of February depends on the year.
  by_cases h2 : monthOf (marchOf day) = 2
  · rw [h2, if_pos (Nat.le_refl 2)]
    rcases hfebruary h2 with h28 | ⟨h29, hlast⟩
    · refine Nat.le_trans h28 ?_
      simp only [daysIn, BEq.rfl, if_true]
      split <;> omega
    · rw [h29]
      simp only [daysIn, BEq.rfl, if_true, hlong hlast]
      exact Nat.le_refl 29
  · rw [daysIn_of_ne h2]
    exact hother h2

/-- The month of a date as it is counted from March, and the year it belongs to then. -/
theorem march_of_month {march : Nat} (h : march < 12) (year : Int) :
    (if 2 < monthOf march then monthOf march - 3 else monthOf march + 9) = march ∧
      (if 2 < monthOf march then (if monthOf march ≤ 2 then year + 1 else year)
        else (if monthOf march ≤ 2 then year + 1 else year) - 1) = year := by
  unfold monthOf
  split
  · rw [if_pos (by omega), if_pos (by omega), if_neg (by omega)]
    omega
  · rw [if_neg (by omega), if_neg (by omega), if_pos (by omega)]
    omega

/-- The date of a day is the date of that day only. -/
theorem toDays_ofDays (days : Int) : (ofDays days).toDays = days := by
  obtain ⟨era, year, day, hyear, hday, hsplit, -, hdate⟩ := ofDays_parts days
  obtain ⟨hmarch, hbefore, -, -⟩ := day_of_march ⟨day, hday⟩
  dsimp only at hmarch hbefore
  obtain ⟨hmonth, hyears⟩ := march_of_month hmarch (era * 400 + year)
  have hera : (era * 400 + (year : Int)) / 400 = era := by omega
  have hin : ((era * 400 + (year : Int)) % 400).toNat = year := by omega
  rw [hdate, toDays]
  dsimp only
  rw [hmonth, hyears, hera, hin]
  omega

end Date

end Shakedown.Time
